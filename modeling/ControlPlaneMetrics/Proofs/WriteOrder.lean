import ControlPlaneMetrics.Proofs.SharedMetrics
import Mathlib.Data.Set.Card

/-!
The order in which producers get their turns at the store. Writes to different keys commute up to the
place that a new key is given, and each key has one producer, whose own order is kept. So only the
order of the entries can tell one interleaving from another, and no value that is published.
-/
namespace ControlPlaneMetrics.Metrics

/-- Whatever form a key is sought in, the keys of series are equal to it as to the one of its labels. -/
theorem Key.same_sought {labels : Labels} {sought k : Key} (hit : labels.key.same sought = true)
    (own : ∃ other : Labels, k = other.key) : k.same sought = k.same labels.key := by
  obtain ⟨other, rfl⟩ := own
  rw [Bool.eq_iff_iff, Labels.faithful_key.same_iff]
  constructor
  · intro found
    exact Labels.faithful_key.right found hit
  · rintro rfl
    exact hit

namespace Store

/-- If each key is written the same states in the same order, the stores are the same map. -/
theorem state?_putAll_congr {s : Store} (keyed : Keyed Labels.key s) {first second : List Write}
    (own : ∀ w ∈ first, ∃ labels : Labels, w.1 = labels.key)
    (own' : ∀ w ∈ second, ∃ labels : Labels, w.1 = labels.key)
    (order : ∀ labels : Labels, first.filter (fun w => w.1.same labels.key) =
      second.filter fun w => w.1.same labels.key) (sought : Key) :
    state? sought (putAll first s) = state? sought (putAll second s) := by
  rw [keyed.state?_putAll Labels.faithful_key first own,
    keyed.state?_putAll Labels.faithful_key second own', ← lastWrite?_filter sought first,
    ← lastWrite?_filter sought second]
  by_cases hit : ∃ labels : Labels, labels.key.same sought = true
  · obtain ⟨labels, hit⟩ := hit
    rw [List.filter_congr fun w member => Key.same_sought hit (own w member),
      List.filter_congr fun w member => Key.same_sought hit (own' w member), order labels]
  · have missed {writes : List Write} (own : ∀ w ∈ writes, ∃ labels : Labels, w.1 = labels.key) :
        (writes.filter fun w => w.1.same sought) = [] := by
      refine List.filter_eq_nil_iff.mpr fun w member found => ?_
      obtain ⟨labels, same⟩ := own w member
      exact hit ⟨labels, same ▸ found⟩
    rw [missed own, missed own']

/-- A store has as many entries as there are labels that it has a state for. -/
theorem length_eq_ncard {s : Store} (keyed : Keyed Labels.key s) (distinct : Distinct s) :
    s.length = {labels : Labels | (state? labels.key s).isSome}.ncard := by
  have ranged : s.map (·.key) ∈ Set.range (List.map Labels.key) := by
    rw [Set.range_list_map]
    rintro _ member
    obtain ⟨e, there, rfl⟩ := List.mem_map.mp member
    obtain ⟨labels, own⟩ := keyed e there
    exact ⟨labels, own.symm⟩
  obtain ⟨known, named⟩ := ranged
  have nodup : known.Nodup := by
    rw [Distinct, ← named] at distinct
    refine List.Pairwise.of_map Labels.key (fun a b apart => ?_) distinct
    rintro rfl
    cases (Labels.faithful_key.refl a).symm.trans apart
  have members : {labels : Labels | (state? labels.key s).isSome} = known.toFinset := by
    ext labels
    simp only [Set.mem_ofPred_eq, state?, Option.isSome_map, List.find?_isSome, List.coe_toFinset]
    constructor
    · rintro ⟨e, there, same⟩
      have key : e.key ∈ known.map Labels.key := named ▸ List.mem_map_of_mem there
      obtain ⟨other, member, own⟩ := List.mem_map.mp key
      rw [← own, Labels.faithful_key.same_iff] at same
      exact same ▸ member
    · intro member
      have key : labels.key ∈ s.map (·.key) := named ▸ List.mem_map_of_mem member
      obtain ⟨e, there, own⟩ := List.mem_map.mp key
      exact ⟨e, there, own ▸ Labels.faithful_key.refl labels⟩
  rw [members, Set.ncard_coe_finset, List.toFinset_card_of_nodup nodup, ← List.length_map Labels.key,
    named, List.length_map]

end Store

namespace Shared

variable {ι : Type} [DecidableEq ι]

/-- Producers get their turns one after the other, and no flush does. -/
def produce (turns : List ι) (s : Shared ι) : Shared ι := execute (turns.map .producer) s

theorem produce_gauge (turns : List ι) (s : Shared ι) :
    (produce turns s).metrics.gauge = s.metrics.gauge := by
  induction turns generalizing s with
  | nil => rfl
  | cons i rest ih =>
    have first : (s.advance (.producer i)).metrics.gauge = s.metrics.gauge := by
      simp only [advance]
      split
      · rfl
      · simp only [accept]
        split <;> rfl
    exact (ih (s.advance (.producer i))).trans first

/-- The writes called for in the turns. -/
def produced (turns : List ι) (s : Shared ι) : List Write :=
  (trace (turns.map .producer) s).map (·.2)

/-- No two producers write the same key. -/
def Apart (s : Shared ι) : Prop :=
  ∀ i j, i ≠ j → ∀ w ∈ s.calls i, ∀ v ∈ s.calls j, w.1 ≠ v.1

/-- Every producer gets all the turns that it has calls for. -/
def Exhausts (turns : List ι) (s : Shared ι) : Prop := ∀ i, (produce turns s).calls i = []

section Exhausted

variable {s : Shared ι} {turns : List ι}

theorem own_of_exhausts (exhausts : Exhausts turns s) (i : ι) :
    own i (trace (turns.map .producer) s) = s.calls i := by
  have whole := own_trace s (turns.map .producer) i
  have done := exhausts i
  rw [produce] at done
  rw [← whole, done, List.append_nil]

theorem mem_trace_iff (exhausts : Exhausts turns s) (i : ι) (w : Write) :
    (i, w) ∈ trace (turns.map .producer) s ↔ w ∈ s.calls i := by
  rw [← own_of_exhausts exhausts i]
  simp [own]

theorem mem_produced_iff (exhausts : Exhausts turns s) (w : Write) :
    w ∈ produced turns s ↔ ∃ i, w ∈ s.calls i := by
  simp [produced, ← mem_trace_iff exhausts]

theorem produced_own (labelled : s.Labelled) (exhausts : Exhausts turns s) :
    ∀ w ∈ produced turns s, ∃ labels : Labels, w.1 = labels.key := by
  intro w member
  obtain ⟨i, called⟩ := (mem_produced_iff exhausts w).mp member
  exact labelled.calls i w called

/-- A key that a producer writes receives what that one calls for, in its order. -/
theorem filter_produced (labelled : s.Labelled) (apart : s.Apart) (exhausts : Exhausts turns s)
    {i : ι} {labels : Labels} (written : ∃ w ∈ s.calls i, w.1 = labels.key) :
    (produced turns s).filter (fun w => w.1.same labels.key) =
      (s.calls i).filter fun w => w.1.same labels.key := by
  obtain ⟨v, called, named⟩ := written
  rw [produced, ← own_of_exhausts exhausts i, own, List.filter_map, List.filter_map,
    List.filter_filter]
  congr 1
  refine List.filter_congr fun call member => ?_
  obtain ⟨j, w⟩ := call
  have theirs : w ∈ s.calls j := (mem_trace_iff exhausts j w).mp member
  by_cases mine : j = i
  · simp [mine]
  · obtain ⟨other, own⟩ := labelled.calls j w theirs
    have missed : ¬w.1.same labels.key = true := by
      rw [own, Labels.faithful_key.same_iff]
      rintro rfl
      exact apart j i mine w theirs v called (own.trans named.symm)
    simp [missed, mine]

/-- Nor does it matter for a key in what order the producers have their turns. -/
theorem filter_produced_congr {turns' : List ι} (labelled : s.Labelled) (apart : s.Apart)
    (exhausts : Exhausts turns s) (exhausts' : Exhausts turns' s) (labels : Labels) :
    (produced turns s).filter (fun w => w.1.same labels.key) =
      (produced turns' s).filter fun w => w.1.same labels.key := by
  by_cases written : ∃ i, ∃ w ∈ s.calls i, w.1 = labels.key
  · obtain ⟨i, written⟩ := written
    rw [filter_produced labelled apart exhausts written,
      filter_produced labelled apart exhausts' written]
  · have unwritten {turns : List ι} (exhausts : Exhausts turns s) :
        (produced turns s).filter (fun w => w.1.same labels.key) = [] := by
      refine List.filter_eq_nil_iff.mpr fun w member found => ?_
      obtain ⟨other, own⟩ := produced_own labelled exhausts w member
      obtain ⟨i, called⟩ := (mem_produced_iff exhausts w).mp member
      rw [own, Labels.faithful_key.same_iff] at found
      exact written ⟨i, w, called, own.trans (congrArg Labels.key found)⟩
    rw [unwritten exhausts, unwritten exhausts']

theorem produce_store (labelled : s.Labelled) (turns : List ι) :
    (produce turns s).metrics.store = Store.putAll (produced turns s) s.metrics.store :=
  execute_store labelled (turns.map .producer)

theorem state?_produce (labelled : s.Labelled) (exhausts : Exhausts turns s) (labels : Labels) :
    Store.state? labels.key (produce turns s).metrics.store =
      (lastWrite? labels.key (produced turns s)).or (Store.state? labels.key s.metrics.store) := by
  rw [produce_store labelled, Store.state?_putAll Labels.faithful_key _ _
    (produced_own labelled exhausts)]

theorem state?_produce_isSome (labelled : s.Labelled) (exhausts : Exhausts turns s)
    (labels : Labels) : (Store.state? labels.key (produce turns s).metrics.store).isSome ↔
      (Store.state? labels.key s.metrics.store).isSome ∨
        ∃ i, ∃ w ∈ s.calls i, w.1 = labels.key := by
  rw [state?_produce labelled exhausts, Option.isSome_or, Bool.or_eq_true, or_comm,
    lastWrite?_isSome_iff (produced_own labelled exhausts)]
  simp only [mem_produced_iff exhausts]
  refine or_congr_right ⟨?_, ?_⟩
  · rintro ⟨w, ⟨i, called⟩, own⟩
    exact ⟨i, w, called, own⟩
  · rintro ⟨i, w, called, own⟩
    exact ⟨w, ⟨i, called⟩, own⟩

/-- What is called for is written, and stays until the same producer writes the key again. -/
theorem state?_produce_last (labelled : s.Labelled) (apart : s.Apart)
    (exhausts : Exhausts turns s) {i : ι} {w : Write} (called : w ∈ s.calls i) :
    ∃ last, lastWrite? w.1 (s.calls i) = some last ∧
      Store.state? w.1 (produce turns s).metrics.store = some last := by
  obtain ⟨labels, own⟩ := labelled.calls i w called
  have written : ∃ w ∈ s.calls i, w.1 = labels.key := ⟨w, called, own⟩
  obtain ⟨last, wrote⟩ := Option.isSome_iff_exists.mp
    ((lastWrite?_isSome_iff (labelled.calls i) labels).mpr written)
  have reached : lastWrite? labels.key (produced turns s) = some last := by
    rw [← wrote, ← lastWrite?_filter, filter_produced labelled apart exhausts written,
      lastWrite?_filter]
  rw [own, state?_produce labelled exhausts, reached, Option.some_or]
  exact ⟨last, wrote, rfl⟩

theorem keyed_produce (labelled : s.Labelled) (turns : List ι) :
    Store.Keyed Labels.key (produce turns s).metrics.store :=
  (labelled.execute (turns.map .producer)).store

theorem distinct_produce (labelled : s.Labelled) (distinct : Store.Distinct s.metrics.store)
    (turns : List ι) : Store.Distinct (produce turns s).metrics.store := by
  rw [produce_store labelled]
  exact distinct.putAll _

end Exhausted

/-- Producers that write no key in common, and any two ways to give them their turns until all calls
are made. The stores are the same map, with an entry for each key that was there or was called for,
and what the key's own producer wrote last. A flush that follows gives every series the same value.
More generally, writes that have the same order at each single key make the same map. -/
theorem turns_do_not_show (s : Shared ι) (labelled : s.Labelled)
    (distinct : Store.Distinct s.metrics.store) (apart : s.Apart) (turns turns' : List ι)
    (exhausts : Exhausts turns s) (exhausts' : Exhausts turns' s) :
    let after := (produce turns s).metrics
    let after' := (produce turns' s).metrics
    (∀ key, Store.state? key after.store = Store.state? key after'.store) ∧
    after.store.length = {labels : Labels | (Store.state? labels.key s.metrics.store).isSome ∨
      ∃ i, ∃ w ∈ s.calls i, w.1 = labels.key}.ncard ∧
    (∀ i, ∀ w ∈ s.calls i, ∃ last, lastWrite? w.1 (s.calls i) = some last ∧
      Store.state? w.1 after.store = some last) ∧
    (∀ labels, lookup? labels after.flush.1.gauge = lookup? labels after'.flush.1.gauge) ∧
    ∀ first second : List Write, (∀ w ∈ first, ∃ labels : Labels, w.1 = labels.key) →
      (∀ w ∈ second, ∃ labels : Labels, w.1 = labels.key) →
      (∀ labels : Labels, first.filter (fun w => w.1.same labels.key) =
        second.filter fun w => w.1.same labels.key) →
      ∀ key, Store.state? key (Store.putAll first s.metrics.store) =
        Store.state? key (Store.putAll second s.metrics.store) := by
  intro after after'
  have same (key : Key) : Store.state? key after.store = Store.state? key after'.store := by
    simp only [after, after', produce_store labelled]
    exact Store.state?_putAll_congr labelled.store (produced_own labelled exhausts)
      (produced_own labelled exhausts')
      (filter_produced_congr labelled apart exhausts exhausts') key
  refine ⟨same, ?_, fun i w called => state?_produce_last labelled apart exhausts called,
    fun labels => ?_, fun first second own own' order key =>
      Store.state?_putAll_congr labelled.store own own' order key⟩
  · rw [Store.length_eq_ncard (keyed_produce labelled turns)
      (distinct_produce labelled distinct turns)]
    simp only [state?_produce_isSome labelled exhausts]
  · calc lookup? labels (after.gauge.publish after.store).1
      _ = ((Store.state? labels.key after.store).map Gauge.level).or (lookup? labels after.gauge) :=
        Gauge.lookup?_publish _ (keyed_produce labelled turns)
          (distinct_produce labelled distinct turns) labels
      _ = ((Store.state? labels.key after'.store).map Gauge.level).or
          (lookup? labels after'.gauge) := by
        rw [same, produce_gauge turns s, ← produce_gauge turns' s]
      _ = lookup? labels (after'.gauge.publish after'.store).1 :=
        (Gauge.lookup?_publish _ (keyed_produce labelled turns')
          (distinct_produce labelled distinct turns') labels).symm

/-- One producer writes a series twice, the other another series once. -/
def meeting (labels other : Labels) : Shared Bool where
  metrics := ⟨[], []⟩
  calls first := if first then [(labels.key, .int 1), (labels.key, .int 0)]
    else [(other.key, .int 1)]
  left := []

/-- Who comes first is first in the store, and nothing else depends on it. -/
theorem first_turn_does_not_show :
    let labels : Labels := ⟨Text.ofString "east", Text.ofString "m5.xlarge"⟩
    let other : Labels := ⟨Text.ofString "east", Text.ofString "m5.large"⟩
    let s := meeting labels other
    s.Labelled ∧ Store.Distinct s.metrics.store ∧ s.Apart ∧
    Exhausts [true, true, false] s ∧ Exhausts [false, true, true] s ∧
    ((produce [true, true, false] s).metrics.store.map (·.enabled)) = [.int 0, .int 1] ∧
    ((produce [false, true, true] s).metrics.store.map (·.enabled)) = [.int 1, .int 0] ∧
    ∀ key, Store.state? key (produce [true, true, false] s).metrics.store =
      Store.state? key (produce [false, true, true] s).metrics.store := by
  intro labels other s
  have called (first : Bool) : ∀ w ∈ s.calls first, w.1 = if first then labels.key else other.key := by
    cases first <;> simp [s, meeting]
  have labelled : s.Labelled := by
    refine ⟨nofun, fun first w member => ?_, nofun⟩
    rw [called first w member]
    cases first with
    | false => exact ⟨other, rfl⟩
    | true => exact ⟨labels, rfl⟩
  have distinct : Store.Distinct s.metrics.store := .nil
  have unlike : labels.key ≠ other.key := fun same =>
    absurd (Labels.key_injective same) (by decide)
  have apart : s.Apart := by
    intro first second different w member v member'
    rw [called first w member, called second v member']
    cases first <;> cases second
    · exact absurd rfl different
    · exact unlike.symm
    · exact unlike
    · exact absurd rfl different
  have exhausts : Exhausts [true, true, false] s := by
    intro first
    cases first <;> rfl
  have exhausts' : Exhausts [false, true, true] s := by
    intro first
    cases first <;> rfl
  obtain ⟨same, _⟩ := turns_do_not_show s labelled distinct apart _ _ exhausts exhausts'
  exact ⟨labelled, distinct, apart, exhausts, exhausts', rfl, rfl, same⟩

end Shared

end ControlPlaneMetrics.Metrics
