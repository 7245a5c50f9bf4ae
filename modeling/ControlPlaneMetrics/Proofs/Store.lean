import ControlPlaneMetrics.Metrics.Store

/-!
The store as a map from keys to states. A write changes one entry in its place or adds
one at the end. After any sequence of writes a key has the state of the last write to it,
or else what it had before.
-/
namespace ControlPlaneMetrics

namespace Value

theorem same_text_iff (v : Value) (t : Text) : v.same (.text t) = true ↔ v = .text t := by
  cases v <;> simp [same, integer?]

theorem text_same_iff (v : Value) (t : Text) : (Value.text t).same v = true ↔ v = .text t := by
  cases v <;> simp [same, integer?, eq_comm]

end Value

namespace Metrics

namespace Key

@[simp] theorem parts_typed (a b : Value) : (typed a b).parts = [a, b] := rfl

theorem same_typed_iff (key : Key) (a b : Value) :
    key.same (typed a b) = true ↔
      ∃ x y, key.parts = [x, y] ∧ x.same a = true ∧ y.same b = true := by
  rcases h : key.parts with _ | ⟨x, _ | ⟨y, _ | ⟨z, rest⟩⟩⟩ <;>
    simp [same, h, Value.sameItems, and_assoc]

theorem typed_same_iff (key : Key) (a b : Value) :
    (typed a b).same key = true ↔
      ∃ x y, key.parts = [x, y] ∧ a.same x = true ∧ b.same y = true := by
  rcases h : key.parts with _ | ⟨x, _ | ⟨y, _ | ⟨z, rest⟩⟩⟩ <;>
    simp [same, h, Value.sameItems, and_assoc]

/-- Keys made from labels of some kind. No key whatsoever is equal to two of them. -/
structure Faithful (key : κ → Key) : Prop where
  refl : ∀ a, (key a).same (key a) = true
  left : ∀ {a b} {k : Key}, k.same (key a) = true → k.same (key b) = true → a = b
  right : ∀ {a b} {k : Key}, (key a).same k = true → (key b).same k = true → a = b

theorem Faithful.same_iff {key : κ → Key} (faithful : Faithful key) (a b : κ) :
    (key a).same (key b) = true ↔ a = b := by
  constructor
  · exact faithful.left (faithful.refl a)
  · rintro rfl
    exact faithful.refl a

/-- Typed pairs under one identifier, which has to be equal to itself as only NaN is not. -/
theorem faithful_typed (clusterId : Value) (reflexive : clusterId.same clusterId = true) :
    Faithful fun t : Text => typed clusterId (.text t) where
  refl t := by
    rw [typed_same_iff]
    exact ⟨_, _, rfl, reflexive, (Value.text_same_iff _ t).mpr rfl⟩
  left {s t k} first second := by
    obtain ⟨_, y, shape, _, hs⟩ := (same_typed_iff ..).mp first
    obtain ⟨_, z, shape', _, ht⟩ := (same_typed_iff ..).mp second
    rw [Value.same_text_iff] at hs ht
    simp_all
  right {s t k} first second := by
    obtain ⟨_, y, shape, _, hs⟩ := (typed_same_iff ..).mp first
    obtain ⟨_, z, shape', _, ht⟩ := (typed_same_iff ..).mp second
    rw [Value.text_same_iff] at hs ht
    simp_all

end Key

/-- A key and the state that is written to it. -/
abbrev Write := Key × Value

/-- The state that the last of the writes to a key gave it. -/
def lastWrite? (key : Key) (writes : List Write) : Option Value :=
  (writes.reverse.find? fun w => w.1.same key).map (·.2)

theorem lastWrite?_cons (key : Key) (w : Write) (writes : List Write) :
    lastWrite? key (w :: writes) =
      (lastWrite? key writes).or (if w.1.same key then some w.2 else none) := by
  simp only [lastWrite?, List.reverse_cons, List.find?_append, Option.map_or]
  congr 1
  cases h : w.1.same key <;> simp [h]

/-- Only the writes to a key and their order count for it. -/
theorem lastWrite?_filter (key : Key) (writes : List Write) :
    lastWrite? key (writes.filter fun w => w.1.same key) = lastWrite? key writes := by
  simp only [lastWrite?, ← List.filter_reverse, List.find?_filter, and_self,
    Bool.decide_eq_true]

namespace Store

/-- What is stored under a key, whatever the form in which it came first. -/
def state? (key : Key) (s : Store) : Option Value :=
  (s.find? fun e => e.key.same key).map (·.enabled)

@[simp] theorem state?_nil (key : Key) : state? key [] = none := rfl

theorem state?_cons (key : Key) (e : Entry) (s : Store) :
    state? key (e :: s) = if e.key.same key then some e.enabled else state? key s := by
  cases h : e.key.same key <;> simp [state?, h]

/-- One entry of the first store is overwritten where it is, or the second has one more. -/
def Written (key : Key) (enabled : Value) (s s' : Store) : Prop :=
  (∃ before e after, s = before ++ e :: after ∧ (∀ d ∈ before, d.key.same key = false) ∧
    e.key.same key = true ∧ s' = before ++ { e with enabled := enabled } :: after) ∨
  ((∀ e ∈ s, e.key.same key = false) ∧ s' = s ++ [⟨key, enabled⟩])

theorem put_written (key : Key) (enabled : Value) (s : Store) :
    Written key enabled s (put key enabled s) := by
  induction s with
  | nil => exact .inr ⟨by simp, rfl⟩
  | cons e rest ih =>
    cases h : e.key.same key with
    | true => exact .inl ⟨[], e, rest, rfl, by simp, h, by simp [put, h]⟩
    | false =>
      rcases ih with ⟨before, d, after, split, apart, same, result⟩ | ⟨apart, result⟩
      · refine .inl ⟨e :: before, d, after, by simp [split], ?_, same, by simp [put, h, result]⟩
        simpa [h] using apart
      · exact .inr ⟨by simpa [h] using apart, by simp [put, h, result]⟩

/-- A write adds no key but its own. -/
theorem key_of_mem_put {key : Key} {enabled : Value} {s : Store} {e : Entry}
    (member : e ∈ put key enabled s) : e.key = key ∨ ∃ d ∈ s, d.key = e.key := by
  rcases put_written key enabled s with ⟨before, d, after, rfl, _, _, result⟩ | ⟨_, result⟩
  · rw [result] at member
    simp only [List.mem_append, List.mem_cons] at member
    rcases member with member | rfl | member
    · exact .inr ⟨e, by simp [member], rfl⟩
    · exact .inr ⟨d, by simp, rfl⟩
    · exact .inr ⟨e, by simp [member], rfl⟩
  · rw [result] at member
    simp only [List.mem_append, List.mem_singleton] at member
    rcases member with member | rfl
    · exact .inr ⟨e, member, rfl⟩
    · exact .inl rfl

/-- The store after the writes, in their order. -/
def putAll (writes : List Write) (s : Store) : Store :=
  writes.foldl (fun s w => put w.1 w.2 s) s

@[simp] theorem putAll_nil (s : Store) : putAll [] s = s := rfl

theorem putAll_append (first second : List Write) (s : Store) :
    putAll (first ++ second) s = putAll second (putAll first s) :=
  List.foldl_append

/-- No two entries have equal keys. -/
def Distinct (s : Store) : Prop :=
  (s.map (·.key)).Pairwise fun a b => a.same b = false

theorem Distinct.put {s : Store} (distinct : Distinct s) (key : Key) (enabled : Value) :
    Distinct (put key enabled s) := by
  rcases put_written key enabled s with ⟨before, e, after, split, _, _, result⟩ | ⟨apart, result⟩
  · rw [split] at distinct
    rw [result]
    simpa [Distinct] using distinct
  · rw [result, Distinct, List.map_append, List.pairwise_append]
    refine ⟨distinct, by simp, ?_⟩
    simpa using apart

theorem Distinct.putAll {s : Store} (distinct : Distinct s) (writes : List Write) :
    Distinct (putAll writes s) := by
  induction writes generalizing s with
  | nil => exact distinct
  | cons w rest ih => exact ih (distinct.put w.1 w.2)

variable {key : κ → Key}

/-- Every key of the store is one of the given. -/
def Keyed (key : κ → Key) (s : Store) : Prop := ∀ e ∈ s, ∃ a, e.key = key a

theorem Keyed.put {s : Store} (keyed : Keyed key s) (a : κ) (enabled : Value) :
    Keyed key (put (key a) enabled s) := by
  intro e member
  rcases key_of_mem_put member with same | ⟨d, old, same⟩
  · exact ⟨a, same⟩
  · exact same ▸ keyed d old

/-- Whatever the store holds, a write to one label is a write to no other. -/
theorem state?_put [DecidableEq κ] (faithful : Key.Faithful key) (a b : κ) (enabled : Value)
    (s : Store) : state? (key b) (put (key a) enabled s) =
      if a = b then some enabled else state? (key b) s := by
  -- an entry may be under any key here, but under none that is equal to both of two labels' keys
  induction s with
  | nil =>
    by_cases same : a = b <;> simp [Store.put, state?_cons, faithful.same_iff, same]
  | cons e rest ih =>
    by_cases written : e.key.same (key a) = true
    · by_cases same : a = b
      · subst same
        simp [Store.put, state?_cons, written]
      · have apart : ¬e.key.same (key b) = true := fun h => same (faithful.left written h)
        simp [Store.put, state?_cons, written, same, apart]
    · by_cases same : a = b
      · subst same
        simp [Store.put, state?_cons, written, ih]
      · simp [Store.put, state?_cons, written, same, ih]

/-- In a store of such keys alone, the same holds for whatever key is sought. -/
theorem Keyed.state?_put (faithful : Key.Faithful key) {s : Store} (keyed : Keyed key s) (a : κ)
    (enabled : Value) (sought : Key) : state? sought (Store.put (key a) enabled s) =
      if (key a).same sought then some enabled else state? sought s := by
  induction s with
  | nil => simp [Store.put, state?_cons]
  | cons e rest ih =>
    obtain ⟨b, own⟩ := keyed e (by simp)
    have later := ih fun d member => keyed d (List.mem_cons_of_mem e member)
    by_cases same : b = a
    · subst same
      by_cases found : (key b).same sought = true <;>
        simp [Store.put, state?_cons, own, faithful.refl, found]
    · have apart : ¬(key b).same (key a) = true := fun h => same ((faithful.same_iff b a).mp h)
      by_cases found : (key b).same sought = true
      · have missed : ¬(key a).same sought = true := fun h => same (faithful.right found h)
        simp [Store.put, state?_cons, own, apart, found, missed]
      · simp [Store.put, state?_cons, own, apart, found, later]

theorem state?_putAll (faithful : Key.Faithful key) (writes : List Write) (s : Store)
    (own : ∀ w ∈ writes, ∃ a, w.1 = key a) (b : κ) :
    state? (key b) (putAll writes s) =
      (lastWrite? (key b) writes).or (state? (key b) s) := by
  classical
  induction writes generalizing s with
  | nil => rfl
  | cons w rest ih =>
    obtain ⟨a, same⟩ := own w (by simp)
    have later := ih (put w.1 w.2 s) fun v member => own v (List.mem_cons_of_mem w member)
    rw [putAll, List.foldl_cons, ← putAll, later, lastWrite?_cons, same, state?_put faithful]
    by_cases hit : a = b <;> simp [faithful.same_iff, hit]

theorem Keyed.putAll {s : Store} (keyed : Keyed key s) (writes : List Write)
    (own : ∀ w ∈ writes, ∃ a, w.1 = key a) : Keyed key (putAll writes s) := by
  induction writes generalizing s with
  | nil => exact keyed
  | cons w rest ih =>
    obtain ⟨a, same⟩ := own w (by simp)
    have next : Keyed key (Store.put w.1 w.2 s) := same ▸ keyed.put a w.2
    exact ih next fun v member => own v (List.mem_cons_of_mem w member)

theorem Keyed.state?_putAll (faithful : Key.Faithful key) {s : Store} (keyed : Keyed key s)
    (writes : List Write) (own : ∀ w ∈ writes, ∃ a, w.1 = key a) (sought : Key) :
    state? sought (Store.putAll writes s) =
      (lastWrite? sought writes).or (state? sought s) := by
  induction writes generalizing s with
  | nil => rfl
  | cons w rest ih =>
    obtain ⟨a, same⟩ := own w (by simp)
    have next : Keyed key (Store.put w.1 w.2 s) := same ▸ keyed.put a w.2
    have later := ih next fun v member => own v (List.mem_cons_of_mem w member)
    rw [Store.putAll, List.foldl_cons, ← Store.putAll, later, lastWrite?_cons, same,
      keyed.state?_put faithful]
    cases hit : (key a).same sought <;> simp

end Store

end Metrics

end ControlPlaneMetrics
