import ControlPlaneMetrics.Proofs.Store
import Mathlib.Data.List.Basic

/-!
Writes in another order. Two writes to different keys can change places: entries that were there
before are written where they are, and only the order of those that come first with these writes
differs. So writes of which no two give one key different states leave the same map from keys to
states in whatever order they are made.
-/
namespace ControlPlaneMetrics.Metrics.Store

variable {κ : Type _} {key : κ → Key} {a b : κ} {k : Key} {v w : Value} {n : Nat} {s t : Store}

/-! ## Where a write goes -/

/-- There is an entry under the key. -/
def holds (k : Key) (s : Store) : Bool := s.any fun e => e.key.same k

theorem holds_cons (k : Key) (e : Entry) (s : Store) :
    holds k (e :: s) = (e.key.same k || holds k s) := rfl

/-- Only where the first entries do not hold the key, a write reaches those after them. -/
theorem put_append (k : Key) (v : Value) (s t : Store) :
    put k v (s ++ t) = if holds k s then put k v s ++ t else s ++ put k v t := by
  induction s with
  | nil => rfl
  | cons e rest ih =>
    rw [List.cons_append, put, put, ih, holds_cons]
    cases e.key.same k with
    | true => rfl
    | false => cases holds k rest <;> rfl

theorem put_of_not_holds (absent : holds k s = false) (v : Value) : put k v s = s ++ [⟨k, v⟩] := by
  simpa [absent, put] using put_append k v s []

theorem holds_keys (k : Key) (s : Store) :
    holds k s = (s.map (·.key)).any fun key => key.same k := by
  simp [holds, List.any_map, Function.comp_def]

theorem keys_put (k : Key) (v : Value) (s : Store) :
    (put k v s).map (·.key) = if holds k s then s.map (·.key) else s.map (·.key) ++ [k] := by
  induction s with
  | nil => rfl
  | cons e rest ih =>
    rw [put, holds_cons]
    cases e.key.same k with
    | true => rfl
    | false => cases held : holds k rest <;> simp [ih, held]

theorem length_put (k : Key) (v : Value) (s : Store) :
    (put k v s).length = if holds k s then s.length else s.length + 1 := by
  have keys := congrArg List.length (keys_put k v s)
  cases held : holds k s <;> simpa [held] using keys

theorem take_put (long : n ≤ s.length) (k : Key) (v : Value) : (put k v s).take n =
    if holds k (s.take n) then put k v (s.take n) else s.take n := by
  have written := put_append k v (s.take n) (s.drop n)
  have size := length_put k v (s.take n)
  rw [List.take_append_drop] at written
  rw [written]
  cases held : holds k (s.take n) with
  | true =>
    rw [held, if_pos rfl, List.length_take_of_le long] at size
    rw [if_pos rfl, if_pos rfl, List.take_left' size]
  | false =>
    rw [if_neg Bool.false_ne_true, if_neg Bool.false_ne_true,
      List.take_left' (List.length_take_of_le long)]

theorem drop_put (long : n ≤ s.length) (k : Key) (v : Value) : (put k v s).drop n =
    if holds k (s.take n) then s.drop n else put k v (s.drop n) := by
  have written := put_append k v (s.take n) (s.drop n)
  have size := length_put k v (s.take n)
  rw [List.take_append_drop] at written
  rw [written]
  cases held : holds k (s.take n) with
  | true =>
    rw [held, if_pos rfl, List.length_take_of_le long] at size
    rw [if_pos rfl, if_pos rfl, List.drop_left' size]
  | false =>
    rw [if_neg Bool.false_ne_true, if_neg Bool.false_ne_true,
      List.drop_left' (List.length_take_of_le long)]

theorem state?_append (k : Key) (s t : Store) :
    state? k (s ++ t) = (state? k s).or (state? k t) := by
  simp [state?, List.find?_append, Option.map_or]

/-- To write what is there changes nothing. -/
theorem put_of_state? (there : state? k s = some v) : put k v s = s := by
  induction s with
  | nil => cases there
  | cons e rest ih =>
    rw [state?_cons] at there
    rw [put]
    cases same : e.key.same k with
    | true =>
      rw [same, if_pos rfl] at there
      rw [if_pos rfl, ← Option.some.inj there]
    | false =>
      rw [same, if_neg Bool.false_ne_true] at there
      rw [if_neg Bool.false_ne_true, ih there]

theorem putAll_of_state? {writes : List Write}
    (there : ∀ w ∈ writes, state? w.1 s = some w.2) : putAll writes s = s := by
  induction writes with
  | nil => rfl
  | cons w rest ih =>
    obtain ⟨first, others⟩ := List.forall_mem_cons.mp there
    rw [putAll, List.foldl_cons, put_of_state? first]
    exact ih others

/-! ## Two writes change places -/

/-- Writes to two keys of which one is there can be made in either order. -/
theorem put_comm (faithful : Key.Faithful key) (apart : a ≠ b)
    (held : holds (key a) s = true ∨ holds (key b) s = true) (v w : Value) :
    put (key a) v (put (key b) w s) = put (key b) w (put (key a) v s) := by
  induction s with
  | nil => simp [holds] at held
  | cons e rest ih =>
    rw [holds_cons, holds_cons] at held
    cases first : e.key.same (key a) with
    | true =>
      have other : e.key.same (key b) = false := by
        rw [Bool.eq_false_iff]
        exact fun second => apart (faithful.left first second)
      simp [put, first, other]
    | false =>
      cases second : e.key.same (key b) with
      | true => simp [put, first, second]
      | false =>
        rw [first, second, Bool.false_or, Bool.false_or] at held
        simp [put, first, second, ih held]

/-- If neither is there, both come at the end, in the order in which they are written. -/
theorem put_put_of_not_holds (faithful : Key.Faithful key) (apart : a ≠ b)
    (absent : holds (key a) s = false) (absent' : holds (key b) s = false) (v w : Value) :
    put (key a) v (put (key b) w s) = s ++ [⟨key b, w⟩, ⟨key a, v⟩] := by
  have other : (key b).same (key a) = false := by
    rw [Bool.eq_false_iff, ne_eq, faithful.same_iff]
    exact fun same => apart same.symm
  rw [put_of_not_holds absent', put_append, absent, if_neg Bool.false_ne_true]
  simp [put, other]

/-! ## Entries that came with the writes -/

/-- After its first `n` entries the store has entries of the given keys alone, each once. -/
structure Grown (key : κ → Key) (n : Nat) (s : Store) : Prop where
  long : n ≤ s.length
  keyed : Keyed key (s.drop n)
  nodup : ((s.drop n).map (·.key)).Nodup

/-- The first `n` entries are the same, and the others are up to their order. -/
structure Reordered (n : Nat) (s t : Store) : Prop where
  old : s.take n = t.take n
  new : (s.drop n).Perm (t.drop n)

theorem Reordered.refl (n : Nat) (s : Store) : Reordered n s s := ⟨rfl, .refl _⟩

theorem Reordered.trans {u : Store} (first : Reordered n s t) (second : Reordered n t u) :
    Reordered n s u :=
  ⟨first.old.trans second.old, first.new.trans second.new⟩

theorem Reordered.perm (reordered : Reordered n s t) : s.Perm t := by
  rw [← List.take_append_drop n s, ← List.take_append_drop n t, reordered.old]
  exact .append_left _ reordered.new

/-- Under keys that each come once, a write goes to the same entry whatever their order. -/
theorem put_perm (faithful : Key.Faithful key) (keyed : Keyed key s)
    (nodup : (s.map (·.key)).Nodup) (perm : s.Perm t) (a : κ) (v : Value) :
    (put (key a) v s).Perm (put (key a) v t) := by
  induction perm with
  | nil => exact .refl _
  | @cons e s t perm ih =>
    have others := ih (fun d member => keyed d (List.mem_cons_of_mem e member))
      (List.nodup_cons.mp nodup).2
    rw [put, put]
    split
    · exact .cons _ perm
    · exact .cons _ others
  | swap d e rest =>
    obtain ⟨i, first⟩ := keyed e (by simp)
    obtain ⟨j, second⟩ := keyed d (by simp)
    simp only [put, first, second]
    by_cases atFirst : (key i).same (key a) = true
    · have missed : ¬(key j).same (key a) = true := by
        intro atSecond
        rw [faithful.same_iff] at atFirst atSecond
        simp [first, second, atFirst, atSecond] at nodup
      rw [if_pos atFirst, if_neg missed, if_pos atFirst]
      exact .swap ..
    · rw [if_neg atFirst, if_neg atFirst]
      split <;> exact .swap ..
  | @trans s t u first second ih ih' =>
    have keyed' : Keyed key t := fun e member => keyed e (first.mem_iff.mpr member)
    have nodup' : (t.map (·.key)).Nodup := (first.map _).nodup_iff.mp nodup
    exact (ih keyed nodup).trans (ih' keyed' nodup')

theorem state?_perm (faithful : Key.Faithful key) (keyed : Keyed key s)
    (nodup : (s.map (·.key)).Nodup) (perm : s.Perm t) (k : Key) : state? k s = state? k t := by
  induction perm with
  | nil => rfl
  | @cons e s t perm ih =>
    have others := ih (fun d member => keyed d (List.mem_cons_of_mem e member))
      (List.nodup_cons.mp nodup).2
    rw [state?_cons, state?_cons, others]
  | swap d e rest =>
    obtain ⟨i, first⟩ := keyed e (by simp)
    obtain ⟨j, second⟩ := keyed d (by simp)
    simp only [state?_cons, first, second]
    by_cases atFirst : (key i).same k = true
    · have missed : ¬(key j).same k = true := by
        intro atSecond
        have same := faithful.right atFirst atSecond
        simp [first, second, same] at nodup
      rw [if_pos atFirst, if_neg missed, if_pos atFirst]
    · rw [if_neg atFirst, if_neg atFirst]
  | @trans s t u first second ih ih' =>
    have keyed' : Keyed key t := fun e member => keyed e (first.mem_iff.mpr member)
    have nodup' : (t.map (·.key)).Nodup := (first.map _).nodup_iff.mp nodup
    exact (ih keyed nodup).trans (ih' keyed' nodup')

theorem Grown.self (key : κ → Key) (s : Store) : Grown key s.length s where
  long := Nat.le_refl _
  keyed := by simp [Keyed]
  nodup := by simp

theorem Grown.put (faithful : Key.Faithful key) (grown : Grown key n s) (a : κ) (v : Value) :
    Grown key n (put (key a) v s) := by
  refine ⟨?_, ?_, ?_⟩
  · rw [length_put]
    have long := grown.long
    split <;> omega
  · rw [drop_put grown.long]
    split
    · exact grown.keyed
    · exact grown.keyed.put a v
  · rw [drop_put grown.long]
    split
    · exact grown.nodup
    rw [keys_put]
    split
    · exact grown.nodup
    · next absent =>
      refine List.nodup_append.mpr ⟨grown.nodup, by simp, fun k old k' new same => absent ?_⟩
      obtain rfl : k' = key a := by simpa using new
      rw [holds_keys, List.any_eq_true]
      exact ⟨k, old, same ▸ faithful.refl a⟩

theorem Reordered.put (faithful : Key.Faithful key) (grown : Grown key n s)
    (reordered : Reordered n s t) (long : n ≤ t.length) (a : κ) (v : Value) :
    Reordered n (put (key a) v s) (put (key a) v t) := by
  constructor
  · rw [take_put grown.long, take_put long, reordered.old]
  · rw [drop_put grown.long, drop_put long, reordered.old]
    split
    · exact reordered.new
    · exact put_perm faithful grown.keyed grown.nodup reordered.new a v

theorem Grown.of_reordered (grown : Grown key n s) (reordered : Reordered n s t)
    (long : n ≤ t.length) : Grown key n t where
  long := long
  keyed e member := grown.keyed e (reordered.new.mem_iff.mpr member)
  nodup := (reordered.new.map _).nodup_iff.mp grown.nodup

theorem Reordered.swap (faithful : Key.Faithful key) (grown : Grown key n s) (apart : a ≠ b)
    (v w : Value) :
    Reordered n (Store.put (key a) v (Store.put (key b) w s))
      (Store.put (key b) w (Store.put (key a) v s)) := by
  by_cases held : holds (key a) s = true ∨ holds (key b) s = true
  · rw [put_comm faithful apart held]
    exact .refl ..
  · rw [not_or, Bool.not_eq_true, Bool.not_eq_true] at held
    obtain ⟨absent, absent'⟩ := held
    rw [put_put_of_not_holds faithful apart absent absent',
      put_put_of_not_holds faithful apart.symm absent' absent]
    constructor
    · rw [List.take_append_of_le_length grown.long, List.take_append_of_le_length grown.long]
    · rw [List.drop_append_of_le_length grown.long, List.drop_append_of_le_length grown.long]
      exact .append_left _ (.swap ..)

/-! ## All writes -/

/-- Writes to one key give it one state. -/
def Agree (writes : List Write) : Prop :=
  ∀ v ∈ writes, ∀ w ∈ writes, v.1.same w.1 = true → v.2 = w.2

variable {writes writes' : List Write}

theorem Grown.putAll (faithful : Key.Faithful key) (grown : Grown key n s)
    (own : ∀ w ∈ writes, ∃ a, w.1 = key a) : Grown key n (putAll writes s) := by
  induction writes generalizing s with
  | nil => exact grown
  | cons w rest ih =>
    obtain ⟨⟨a, same⟩, others⟩ := List.forall_mem_cons.mp own
    have next : Grown key n (Store.put w.1 w.2 s) := same ▸ grown.put faithful a w.2
    exact ih next others

theorem Reordered.putAll (faithful : Key.Faithful key) (grown : Grown key n s)
    (grown' : Grown key n t) (reordered : Reordered n s t)
    (own : ∀ w ∈ writes, ∃ a, w.1 = key a) :
    Reordered n (putAll writes s) (putAll writes t) := by
  induction writes generalizing s t with
  | nil => exact reordered
  | cons w rest ih =>
    obtain ⟨⟨a, same⟩, others⟩ := List.forall_mem_cons.mp own
    have next : Grown key n (Store.put w.1 w.2 s) := same ▸ grown.put faithful a w.2
    have next' : Grown key n (Store.put w.1 w.2 t) := same ▸ grown'.put faithful a w.2
    have both : Reordered n (Store.put w.1 w.2 s) (Store.put w.1 w.2 t) :=
      same ▸ reordered.put faithful grown grown'.long a w.2
    exact ih next next' both others

/-- Writes that agree can be made in any order. -/
theorem putAll_perm (faithful : Key.Faithful key) (perm : writes.Perm writes')
    (own : ∀ w ∈ writes, ∃ a, w.1 = key a) (agree : Agree writes) (grown : Grown key n s) :
    Reordered n (putAll writes s) (putAll writes' s) := by
  induction perm generalizing s with
  | nil => exact .refl ..
  | @cons w l l' perm ih =>
    obtain ⟨⟨a, same⟩, others⟩ := List.forall_mem_cons.mp own
    have next : Grown key n (Store.put w.1 w.2 s) := same ▸ grown.put faithful a w.2
    exact ih others (fun u first v second => agree u (.tail _ first) v (.tail _ second)) next
  | swap v w rest =>
    -- the two writes are to different keys, or they are the same write
    obtain ⟨⟨a, first⟩, remaining⟩ := List.forall_mem_cons.mp own
    obtain ⟨⟨b, second⟩, others⟩ := List.forall_mem_cons.mp remaining
    have grown' : Grown key n (Store.put v.1 v.2 (Store.put w.1 w.2 s)) := by
      rw [first, second]
      exact (grown.put faithful a w.2).put faithful b v.2
    have exchanged : Reordered n (Store.put v.1 v.2 (Store.put w.1 w.2 s))
        (Store.put w.1 w.2 (Store.put v.1 v.2 s)) := by
      by_cases same : b = a
      · subst same
        have hit : w.1.same v.1 = true := by
          rw [first, second]
          exact faithful.refl b
        have equal : w = v := Prod.ext (first.trans second.symm)
          (agree w (.head _) v (.tail _ (.head _)) hit)
        rw [equal]
        exact .refl ..
      · rw [first, second]
        exact .swap faithful grown same v.2 w.2
    have long : n ≤ (Store.put w.1 w.2 (Store.put v.1 v.2 s)).length := by
      rw [first, second]
      exact ((grown.put faithful b v.2).put faithful a w.2).long
    exact exchanged.putAll faithful grown' (grown'.of_reordered exchanged long) others
  | @trans l m r first second ih ih' =>
    have own' : ∀ w ∈ m, ∃ a, w.1 = key a := fun w member => own w (first.mem_iff.mpr member)
    have agree' : Agree m := fun u here v there =>
      agree u (first.mem_iff.mpr here) v (first.mem_iff.mpr there)
    exact (ih own agree grown).trans (ih' own' agree' grown)

/-- The map from keys to states is the same. -/
theorem state?_of_reordered (faithful : Key.Faithful key) (grown : Grown key n s)
    (reordered : Reordered n s t) (k : Key) : state? k s = state? k t := by
  rw [← List.take_append_drop n s, ← List.take_append_drop n t, state?_append, state?_append,
    reordered.old, state?_perm faithful grown.keyed grown.nodup reordered.new]

end ControlPlaneMetrics.Metrics.Store
