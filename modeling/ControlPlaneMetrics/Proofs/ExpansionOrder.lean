import ControlPlaneMetrics.Proofs.Expansion
import Mathlib.Data.List.Nodup

/-!
What order has to do with the expansion of references. Values that are put in as data and never
looked at again give one text, whatever the order of the variables. The searches come to it as long as
it has no reference to a variable that is set; where it has one, a search finds it if its variable
comes after the one that brought it, and not if it comes before.
-/
namespace ControlPlaneMetrics.Settings

variable {env rest : Environment} {name value t r : Text}

/-- The text with values put in as data: where a reference to a variable begins its value is put in
and left alone, and all other code points are kept. -/
inductive Inserts (env : Environment) : Text → Text → Prop where
  | nil : Inserts env [] []
  | put {name value t r : Text} : (name, value) ∈ env → Inserts env t r →
      Inserts env (reference name ++ t) (value ++ r)
  | keep {c : CodePoint} {t r : Text} : (∀ set ∈ env, ¬reference set.1 <+: c :: t) →
      Inserts env t r → Inserts env (c :: t) (c :: r)

/-- No reference to a variable begins inside of another. -/
def Separate (env : Environment) : Prop :=
  ∀ first ∈ env, ∀ second ∈ env, ∀ before behind, reference first.1 = before ++ behind →
    behind ≠ [] → behind <+: reference second.1 ∨ reference second.1 <+: behind →
    before = [] ∧ first.1 = second.1

/-- No reference to a variable is in the text. -/
def Free (env : Environment) (t : Text) : Prop := ∀ set ∈ env, ¬reference set.1 <:+: t

instance (env : Environment) (t : Text) : Decidable (Free env t) :=
  inferInstanceAs (Decidable (∀ set ∈ env, ¬reference set.1 <:+: t))

theorem Separate.tail {first : Text × Text} (separate : Separate (first :: rest)) : Separate rest :=
  fun first member second member' =>
    separate first (.tail _ member) second (.tail _ member')

theorem Free.tail {first : Text × Text} (free : Free (first :: rest) t) : Free rest t :=
  fun set member => free set (.tail _ member)

theorem Free.suffix {before : Text} (free : Free env (before ++ t)) : Free env t :=
  fun set member inside => free set member (inside.trans (List.suffix_append before t).isInfix)

theorem reference_ne_nil (name : Text) : reference name ≠ [] := by
  simp [reference]

/-- Two references at the same place are to the same variable. -/
theorem Separate.names_eq (separate : Separate env) {first second : Text × Text}
    (member : first ∈ env) (member' : second ∈ env) (here : reference first.1 <+: t)
    (here' : reference second.1 <+: t) : first.1 = second.1 :=
  (separate first member second member' [] _ rfl (reference_ne_nil _)
    (List.prefix_or_prefix_of_prefix here here')).2

theorem name_eq_of_begins {name other : Text} (closed : .char '\x7d' ∉ other)
    (here : reference name <+: reference other) : name = other := by
  have here : name ++ [.char '\x7d'] <+: other ++ [.char '\x7d'] := by
    simpa only [reference, List.cons_append, List.prefix_cons_inj] using here
  rcases List.prefix_concat_iff.mp here with whole | inside
  · exact List.append_cancel_right whole
  · exact absurd (inside.subset (by simp)) closed

/-- Names with neither a dollar sign nor a closing brace, as usual ones are. -/
theorem separate_of_plain (closed : ∀ set ∈ env, .char '\x7d' ∉ set.1)
    (plain : ∀ set ∈ env, .char '$' ∉ set.1) : Separate env := by
  intro first member second member' before behind split some touch
  cases before with
  | nil =>
    obtain rfl : reference first.1 = behind := split
    constructor
    · rfl
    · rcases touch with here | here
      · exact name_eq_of_begins (closed second member') here
      · exact (name_eq_of_begins (closed first member) here).symm
  | cons d before =>
    -- what touches another reference begins with a dollar sign, and the name has none
    obtain ⟨b, behind, rfl⟩ := List.exists_cons_of_ne_nil some
    obtain rfl : b = .char '$' := by
      rcases touch with here | here
      · exact (List.cons_prefix_cons.mp here).1
      · exact (List.cons_prefix_cons.mp here).1.symm
    have inside : .char '\x7b' :: first.1 ++ [.char '\x7d'] = before ++ .char '$' :: behind :=
      (List.cons.inj split).2
    have found : .char '$' ∈ (.char '\x7b' :: first.1 ++ [.char '\x7d'] : Text) := inside ▸ by simp
    exact absurd (by simpa using found) (plain first member)

/-! ## Searches keep clear of each other -/

theorem dropStart?_of_apart {start t : Text} (apart : ¬start <+: t) :
    Text.dropStart? start t = none := by
  cases found : Text.dropStart? start t with
  | none => rfl
  | some rest => exact absurd ⟨rest, (Text.eq_append_of_dropStart? found).symm⟩ apart

theorem expandOne_apart {c : CodePoint} (apart : ¬reference name <+: c :: t) :
    expandOne (c :: t) name value = c :: expandOne t name value :=
  expandOne_missed name value (dropStart?_of_apart apart)

/-- A search goes past the reference to another variable. -/
theorem Separate.expandOne_other (separate : Separate env) {set other : Text × Text}
    (member : set ∈ env) (member' : other ∈ env) (apart : other.1 ≠ set.1) (t : Text) :
    expandOne (reference other.1 ++ t) set.1 value =
      reference other.1 ++ expandOne t set.1 value := by
  have past (before behind : Text) (split : reference other.1 = before ++ behind) :
      expandOne (behind ++ t) set.1 value = behind ++ expandOne t set.1 value := by
    induction behind generalizing before with
    | nil => rfl
    | cons c behind ih =>
      have missed : ¬reference set.1 <+: c :: (behind ++ t) := by
        intro here
        have touch := List.prefix_or_prefix_of_prefix (List.prefix_append (c :: behind) t) here
        obtain ⟨-, same⟩ := separate other member' set member before _ split
          (List.cons_ne_nil c behind) touch
        exact apart same
      rw [List.cons_append, expandOne_apart missed, List.cons_append,
        ih (before ++ [c]) (by rw [split, List.append_assoc, List.singleton_append])]
  exact past [] _ rfl

/-! ## One text -/

theorem Inserts.exists (env : Environment) (t : Text) : ∃ r, Inserts env t r := by
  induction size : t.length using Nat.strongRecOn generalizing t with
  | ind n ih =>
    cases t with
    | nil => exact ⟨[], .nil⟩
    | cons c t =>
      by_cases here : ∃ set ∈ env, reference set.1 <+: c :: t
      · obtain ⟨⟨name, value⟩, member, after, split⟩ := here
        have longer := congrArg List.length split
        have some := List.length_pos_iff.mpr (reference_ne_nil name)
        simp only [List.length_append, size] at longer
        obtain ⟨r, inserts⟩ := ih after.length (by omega) after rfl
        exact ⟨value ++ r, split ▸ inserts.put member⟩
      · obtain ⟨r, inserts⟩ := ih t.length (by simp [← size]) t rfl
        refine ⟨c :: r, .keep ?_ inserts⟩
        intro set member found
        exact here ⟨set, member, found⟩

theorem Inserts.of_put (distinct : (env.map (·.1)).Nodup) (separate : Separate env)
    (member : (name, value) ∈ env) {whole s : Text}
    (inserts : Inserts env whole s) (split : whole = reference name ++ t) :
    ∃ r, s = value ++ r ∧ Inserts env t r := by
  have here : reference name <+: whole := ⟨t, split.symm⟩
  cases inserts with
  | nil => exact absurd (List.prefix_nil.mp here) (reference_ne_nil name)
  | @put other value' t' r member' inserts =>
    have same : name = other :=
      separate.names_eq member member' here (List.prefix_append _ _)
    subst same
    have entry := List.inj_on_of_nodup_map distinct member member' rfl
    cases entry
    cases List.append_cancel_left split
    exact ⟨r, rfl, inserts⟩
  | keep apart _ => exact absurd here (apart _ member)

theorem Inserts.of_keep {c : CodePoint} {whole s : Text} (inserts : Inserts env whole s)
    (split : whole = c :: t) (apart : ∀ set ∈ env, ¬reference set.1 <+: c :: t) :
    ∃ r, s = c :: r ∧ Inserts env t r := by
  cases inserts with
  | nil => cases split
  | put member _ => exact absurd ⟨_, split⟩ (apart _ member)
  | keep _ inserts =>
    cases split
    exact ⟨_, rfl, inserts⟩

theorem Inserts.unique (distinct : (env.map (·.1)).Nodup) (separate : Separate env) {s : Text}
    (inserts : Inserts env t r) (inserts' : Inserts env t s) : s = r := by
  induction inserts generalizing s with
  | nil =>
    generalize empty : ([] : Text) = whole at inserts'
    cases inserts' with
    | nil => rfl
    | put _ _ => exact absurd (List.append_eq_nil_iff.mp empty.symm).1 (reference_ne_nil _)
    | keep _ _ => cases empty
  | put member _ ih =>
    obtain ⟨_, rfl, later⟩ := inserts'.of_put distinct separate member rfl
    rw [ih later]
  | keep apart _ ih =>
    obtain ⟨_, rfl, later⟩ := inserts'.of_keep rfl apart
    rw [ih later]

theorem Inserts.perm {other : Environment} (perm : other.Perm env) (inserts : Inserts env t r) :
    Inserts other t r := by
  induction inserts with
  | nil => exact .nil
  | put member _ ih => exact ih.put (perm.mem_iff.mpr member)
  | keep apart _ ih => exact ih.keep fun set member => apart set (perm.mem_iff.mp member)

theorem Inserts.eq_of_unset (inserts : Inserts [] t r) : t = r := by
  induction inserts with
  | nil => rfl
  | put member _ _ => cases member
  | keep _ _ ih => rw [ih]

/-! ## The searches -/

/-- What goes on with a reference that has begun is kept. -/
theorem Inserts.goes_on (separate : Separate env) {set : Text × Text} (member : set ∈ env)
    (inserts : Inserts env t r) {before behind : Text} (some : before ≠ [])
    (split : reference set.1 = before ++ behind) (here : behind <+: t) : behind <+: r := by
  induction inserts generalizing before behind with
  | nil => exact here
  | @put name value t r member' _ _ =>
    cases behind with
    | nil => exact List.nil_prefix
    | cons c behind =>
      have touch := List.prefix_or_prefix_of_prefix here (List.prefix_append (reference name) t)
      obtain ⟨none, -⟩ := separate set member (name, value) member' before _ split
        (List.cons_ne_nil c behind) touch
      exact absurd none some
  | @keep c t r _ _ ih =>
    cases behind with
    | nil => exact List.nil_prefix
    | cons d behind =>
      obtain ⟨rfl, later⟩ := List.cons_prefix_cons.mp here
      have split : reference set.1 = (before ++ [d]) ++ behind := by
        rw [split, List.append_assoc, List.singleton_append]
      exact List.cons_prefix_cons.mpr ⟨rfl, ih (by simp) split later⟩

theorem Inserts.keep_free (separate : Separate env) {c : CodePoint} (inserts : Inserts env t r)
    (free : Free env (c :: r)) : Inserts env (c :: t) (c :: r) := by
  refine .keep ?_ inserts
  intro set member here
  cases split : reference set.1 with
  | nil => exact reference_ne_nil _ split
  | cons d behind =>
    rw [split] at here
    obtain ⟨rfl, begun⟩ := List.cons_prefix_cons.mp here
    have later : behind <+: r :=
      inserts.goes_on separate member (List.cons_ne_nil d []) (by simpa using split) begun
    have found : reference set.1 <+: d :: r := split ▸ List.cons_prefix_cons.mpr ⟨rfl, later⟩
    exact free set member found.isInfix

theorem Inserts.append_free (separate : Separate env) (inserts : Inserts env t r) {s : Text}
    (free : Free env (s ++ r)) : Inserts env (s ++ t) (s ++ r) := by
  induction s with
  | nil => exact inserts
  | cons c s ih =>
    have later : Free env ([c] ++ (s ++ r)) := free
    exact (ih later.suffix).keep_free separate free

/-- After the search for one variable, the others are to be put in for the same result. -/
theorem Inserts.search (distinct : (((name, value) :: rest).map (·.1)).Nodup)
    (separate : Separate ((name, value) :: rest)) (inserts : Inserts ((name, value) :: rest) t r)
    (free : Free ((name, value) :: rest) r) : Inserts rest (expandOne t name value) r := by
  induction inserts with
  | nil => exact .nil
  | @put other value' t r member _ ih =>
    have later := ih free.suffix
    by_cases own : other = name
    · subst own
      have entry := List.inj_on_of_nodup_map distinct member List.mem_cons_self rfl
      cases entry
      rw [expandOne_own]
      exact later.append_free separate.tail free.tail
    · rw [separate.expandOne_other List.mem_cons_self member own]
      have member : (other, value') ∈ rest := by simpa [own] using member
      exact later.put member
  | @keep c t r apart _ ih =>
    have behind : Free ((name, value) :: rest) ([c] ++ r) := free
    rw [expandOne_apart (apart _ List.mem_cons_self)]
    exact (ih behind.suffix).keep_free separate.tail free.tail

theorem Inserts.expand (distinct : (env.map (·.1)).Nodup) (separate : Separate env)
    (inserts : Inserts env t r) (free : Free env r) : expand env t = r := by
  induction env generalizing t with
  | nil => exact inserts.eq_of_unset
  | cons first rest ih =>
    have searched := inserts.search distinct separate free
    exact ih (List.nodup_cons.mp distinct).2 separate.tail searched free.tail

/-- For every text and every environment in which each name is there once and no reference to a
variable begins inside of another, the values may be any texts. Values that are put in as data give
one text; and unless that has come to have a reference to a variable in it, this is what the
searches give, in whatever order the variables are. -/
theorem expansion_inserts_data (env : Environment) (t : Text)
    (distinct : (env.map (·.1)).Nodup) (separate : Separate env) :
    ∃ r, (∀ s, Inserts env t s ↔ s = r) ∧
      (Free env r → ∀ other, other.Perm env → expand other t = r) := by
  obtain ⟨r, inserts⟩ := Inserts.exists env t
  refine ⟨r, ?_, ?_⟩
  · intro s
    constructor
    · exact inserts.unique distinct separate
    · rintro rfl
      exact inserts
  · intro free other perm
    apply (inserts.perm perm).expand
    · exact (perm.map (·.1)).nodup_iff.mpr distinct
    · intro first member second member'
      exact separate first (perm.mem_iff.mp member) second (perm.mem_iff.mp member')
    · intro set member
      exact free set (perm.mem_iff.mp member)

/-- A value that is the beginning of a reference is put in as it is. -/
theorem expansion_inserts_begun_reference :
    let env : Environment := [(Text.ofString "A", Text.ofString "$\x7bB"),
      (Text.ofString "B", Text.ofString "x")]
    let t := reference (Text.ofString "A") ++ (.char '-' :: (reference (Text.ofString "B") ++ []))
    let expanded := Text.ofString "$\x7bB-x"
    (env.map (·.1)).Nodup ∧ Separate env ∧ Inserts env t expanded ∧ Free env expanded ∧
    env.reverse.Perm env ∧ expand env t = expanded ∧ expand env.reverse t = expanded := by
  intro env t expanded
  have distinct : (env.map (·.1)).Nodup := by decide
  have separate : Separate env := separate_of_plain (by decide) (by decide)
  have free : Free env expanded := by decide
  have last : Inserts env (reference (Text.ofString "B") ++ []) (Text.ofString "x" ++ []) :=
    Inserts.nil.put (by decide)
  have kept : Inserts env (.char '-' :: (reference (Text.ofString "B") ++ []))
      (.char '-' :: (Text.ofString "x" ++ [])) := last.keep (by decide)
  have first : (Text.ofString "A", Text.ofString "$\x7bB") ∈ env := by decide
  have inserts : Inserts env t expanded := kept.put first
  have perm : env.reverse.Perm env := List.reverse_perm env
  obtain ⟨r, unique, ordered⟩ := expansion_inserts_data env t distinct separate
  obtain rfl := (unique expanded).mp inserts
  exact ⟨distinct, separate, inserts, free, perm, ordered free env (.refl env),
    ordered free env.reverse perm⟩

/-- Where the value of one variable is a reference to another, the order of the two shows. -/
theorem expansion_depends_on_order :
    ¬∀ (env : Environment) (t : Text), (env.map (·.1)).Nodup →
      ∀ other, other.Perm env → expand other t = expand env t := by
  intro ordered
  let env : Environment := [(Text.ofString "A", Text.ofString "$\x7bB\x7d"),
    (Text.ofString "B", Text.ofString "x")]
  have same := ordered env (reference (Text.ofString "A")) (by decide) env.reverse
    (List.reverse_perm env)
  exact absurd same (by decide)

end ControlPlaneMetrics.Settings
