import ControlPlaneMetrics.Proofs.Publication

/-!
Producers that write the store while it is being flushed. A flush copies the store and then
publishes the copy, one entry a turn, and between two of its turns any producers may make calls.
A call, the copying, and the publication of one entry are each atomic; one flush runs at a time.
What a flush leaves in the gauge is what it would have left if nobody had interfered.
-/
namespace ControlPlaneMetrics.Metrics

/-- Metrics that producers of any number and a flush work on. -/
structure Shared (ι : Type) where
  metrics : Metrics
  /-- The writes that each producer has yet to call for. -/
  calls : ι → List Write
  /-- The entries of the copy that have yet to be published. -/
  left : List Entry

inductive Turn (ι : Type) where
  | producer (i : ι)
  | flusher
  deriving DecidableEq

namespace Shared

variable {ι : Type} [DecidableEq ι]

/-- The metrics after a call for a write, which is without effect if the key cannot be one. -/
def accept (w : Write) (m : Metrics) : Metrics :=
  match Store.set w.1 w.2 m.store with
  | .ok store => { m with store := store }
  | .error _ => m

/-- One turn. A producer without calls does nothing. A flush is over when nothing is left of its
copy, or when an entry cannot be published, and the turn after that begins another. -/
def advance (s : Shared ι) : Turn ι → Shared ι
  | .producer i =>
    match s.calls i with
    | [] => s
    | w :: rest => { s with
        metrics := accept w s.metrics
        calls := fun other => if other = i then rest else s.calls other }
  | .flusher =>
    match s.left with
    | [] => { s with left := s.metrics.store }
    | e :: rest =>
      match s.metrics.gauge.publishEntry e with
      | .ok gauge => { s with metrics := { s.metrics with gauge := gauge }, left := rest }
      | .error _ => { s with left := [] }

def execute : List (Turn ι) → Shared ι → Shared ι
  | [], s => s
  | turn :: rest, s => execute rest (s.advance turn)

/-- The write that a turn calls for, and the producer that does. -/
def called? (s : Shared ι) : Turn ι → Option (ι × Write)
  | .producer i => (s.calls i).head?.map (i, ·)
  | .flusher => none

/-- The writes called for in the turns, in their order. -/
def trace : List (Turn ι) → Shared ι → List (ι × Write)
  | [], _ => []
  | turn :: rest, s => (s.called? turn).toList ++ trace rest (s.advance turn)

/-- All keys are those of series. -/
structure Labelled (s : Shared ι) : Prop where
  store : Store.Keyed Labels.key s.metrics.store
  calls : ∀ i, ∀ w ∈ s.calls i, ∃ labels : Labels, w.1 = labels.key
  left : Store.Keyed Labels.key s.left

theorem accept_labelled {w : Write} {labels : Labels} (own : w.1 = labels.key) (m : Metrics) :
    accept w m = { m with store := Store.put w.1 w.2 m.store } := by
  simp [accept, Store.set, own, labels.key_misuse?]

theorem publishEntry_labelled (g : Gauge) {e : Entry} {labels : Labels} (own : e.key = labels.key) :
    g.publishEntry e = .ok (write labels (Gauge.level e.enabled) g) := by
  simp [Gauge.publishEntry, own, Labels.key, Value.display]

theorem Labelled.advance {s : Shared ι} (labelled : s.Labelled) (turn : Turn ι) :
    (s.advance turn).Labelled := by
  cases turn with
  | producer i =>
    cases pending : s.calls i with
    | nil => simpa [Shared.advance, pending] using labelled
    | cons w rest =>
      have known : ∀ v ∈ w :: rest, ∃ labels : Labels, v.1 = labels.key := by
        rw [← pending]
        exact labelled.calls i
      obtain ⟨⟨labels, own⟩, others⟩ := List.forall_mem_cons.mp known
      simp only [Shared.advance, pending, accept_labelled own]
      refine ⟨own ▸ labelled.store.put labels w.2, fun other v member => ?_, labelled.left⟩
      by_cases same : other = i
      · simp only [same, if_true] at member
        exact others v member
      · simp only [same, if_false] at member
        exact labelled.calls other v member
  | flusher =>
    cases left : s.left with
    | nil =>
      simp only [Shared.advance, left]
      exact ⟨labelled.store, labelled.calls, labelled.store⟩
    | cons e rest =>
      have known : Store.Keyed Labels.key (e :: rest) := left ▸ labelled.left
      obtain ⟨⟨labels, own⟩, others⟩ := List.forall_mem_cons.mp known
      simp only [Shared.advance, left, publishEntry_labelled _ own]
      exact ⟨labelled.store, labelled.calls, others⟩

theorem advance_store {s : Shared ι} (labelled : s.Labelled) (turn : Turn ι) :
    (s.advance turn).metrics.store =
      Store.putAll ((s.called? turn).toList.map (·.2)) s.metrics.store := by
  cases turn with
  | producer i =>
    cases pending : s.calls i with
    | nil => simp [Shared.advance, called?, pending]
    | cons w rest =>
      obtain ⟨labels, own⟩ := labelled.calls i w (by simp [pending])
      simp [Shared.advance, called?, pending, accept_labelled own, Store.putAll]
  | flusher =>
    cases left : s.left with
    | nil => simp [Shared.advance, called?, left]
    | cons e rest =>
      obtain ⟨labels, own⟩ := labelled.left e (by simp [left])
      simp [Shared.advance, called?, left, publishEntry_labelled _ own]

/-- Whatever the turns, the writes reach the store in the order of the calls. -/
theorem execute_store {s : Shared ι} (labelled : s.Labelled) (turns : List (Turn ι)) :
    (execute turns s).metrics.store =
      Store.putAll ((trace turns s).map (·.2)) s.metrics.store := by
  induction turns generalizing s with
  | nil => rfl
  | cons turn rest ih =>
    rw [execute, ih (labelled.advance turn), advance_store labelled, trace, List.map_append,
      Store.putAll_append]

/-- The writes that one producer called for. -/
def own (i : ι) (calls : List (ι × Write)) : List Write :=
  (calls.filter (·.1 = i)).map (·.2)

theorem own_append (i : ι) (first second : List (ι × Write)) :
    own i (first ++ second) = own i first ++ own i second := by
  simp [own]

theorem own_advance (s : Shared ι) (turn : Turn ι) (i : ι) :
    own i (s.called? turn).toList ++ (s.advance turn).calls i = s.calls i := by
  cases turn with
  | producer j =>
    cases pending : s.calls j with
    | nil => simp [own, Shared.advance, called?, pending]
    | cons w rest =>
      by_cases same : j = i
      · subst same
        simp [own, Shared.advance, called?, pending]
      · simp [own, Shared.advance, called?, pending, same, Ne.symm same]
  | flusher =>
    simp only [Shared.advance, called?]
    split
    · simp [own]
    · split <;> simp [own]

/-- No call is lost, made twice or made out of its producer's order. -/
theorem own_trace (s : Shared ι) (turns : List (Turn ι)) (i : ι) :
    own i (trace turns s) ++ (execute turns s).calls i = s.calls i := by
  induction turns generalizing s with
  | nil => rfl
  | cons turn rest ih => rw [trace, execute, own_append, List.append_assoc, ih, own_advance]

/-- Until a flush is over, no turn changes what it will have published in the end. -/
theorem advance_flushing {s : Shared ι} (labelled : s.Labelled) (turn : Turn ι)
    (busy : turn = .flusher → s.left ≠ []) :
    ((s.advance turn).metrics.gauge.publish (s.advance turn).left).1 =
      (s.metrics.gauge.publish s.left).1 ∧
    (s.advance turn).left.length + [turn].count .flusher = s.left.length := by
  cases turn with
  | producer i =>
    cases pending : s.calls i with
    | nil => simp [Shared.advance, pending]
    | cons w rest =>
      obtain ⟨labels, own⟩ := labelled.calls i w (by simp [pending])
      simp [Shared.advance, pending, accept_labelled own]
  | flusher =>
    cases left : s.left with
    | nil => exact absurd left (busy rfl)
    | cons e rest =>
      obtain ⟨labels, own⟩ := labelled.left e (by simp [left])
      simp [Shared.advance, left, publishEntry_labelled _ own, Gauge.publish]

theorem execute_flushing {s : Shared ι} (labelled : s.Labelled) (turns : List (Turn ι))
    (enough : turns.count .flusher ≤ s.left.length) :
    ((execute turns s).metrics.gauge.publish (execute turns s).left).1 =
      (s.metrics.gauge.publish s.left).1 ∧
    (execute turns s).left.length + turns.count .flusher = s.left.length := by
  induction turns generalizing s with
  | nil => simp [execute]
  | cons turn rest ih =>
    have split : (turn :: rest).count .flusher = [turn].count .flusher + rest.count .flusher := by
      rw [← List.singleton_append, List.count_append]
    rw [split] at enough ⊢
    have busy : turn = .flusher → s.left ≠ [] := by
      rintro rfl none
      simp [none] at enough
    obtain ⟨gauge, length⟩ := advance_flushing labelled turn busy
    obtain ⟨later, total⟩ := ih (labelled.advance turn) (by omega)
    rw [execute]
    exact ⟨later.trans gauge, by omega⟩

theorem execute_append (first second : List (Turn ι)) (s : Shared ι) :
    execute (first ++ second) s = execute second (execute first s) := by
  induction first generalizing s with
  | nil => rfl
  | cons turn rest ih => exact ih _

theorem Labelled.execute {s : Shared ι} (labelled : s.Labelled) (turns : List (Turn ι)) :
    (execute turns s).Labelled := by
  induction turns generalizing s with
  | nil => exact labelled
  | cons turn rest ih => exact ih (labelled.advance turn)

/-- Whatever calls come while a flush is at work: it ends after as many turns as there were entries
when it began, and the gauge is what a flush in one go would have made of it then. The store has
received every write called for, in the order of the calls. -/
theorem flush_publishes_its_copy (s : Shared ι) (labelled : s.Labelled)
    (before during : List (Turn ι)) (idle : (execute before s).left = [])
    (entire : during.count .flusher = (execute before s).metrics.store.length) :
    let turns := before ++ .flusher :: during
    (execute turns s).left = [] ∧
    (execute turns s).metrics.gauge = (execute before s).metrics.flush.1.gauge ∧
    (execute turns s).metrics.store =
      Store.putAll ((trace turns s).map (·.2)) s.metrics.store ∧
    ∀ i, own i (trace turns s) ++ (execute turns s).calls i = s.calls i := by
  intro turns
  let begun : Shared ι := { execute before s with left := (execute before s).metrics.store }
  have begins : (execute before s).advance .flusher = begun := by
    simp [Shared.advance, idle, begun]
  have run : execute turns s = execute during begun := by
    rw [execute_append, execute, begins]
  have beginsLabelled : begun.Labelled := begins ▸ (labelled.execute before).advance .flusher
  obtain ⟨gauge, length⟩ := execute_flushing beginsLabelled during (Nat.le_of_eq entire)
  have finished : (execute turns s).left = [] := by
    have none : (execute during begun).left.length = 0 := by
      have whole : begun.left.length = during.count .flusher := entire.symm
      omega
    rw [run]
    exact List.eq_nil_of_length_eq_zero none
  refine ⟨finished, ?_, execute_store labelled turns, own_trace s turns⟩
  rw [← run, finished] at gauge
  exact gauge

/-- Two producers that are about to switch off a series each. -/
def switching (labels other : Labels) : Shared Bool where
  metrics := ⟨[⟨labels.key, .int 1⟩, ⟨other.key, .int 1⟩], []⟩
  calls first := [(if first then labels.key else other.key, .int 0)]
  left := []

theorem switching_labelled (labels other : Labels) : (switching labels other).Labelled where
  store := by exact List.forall_mem_cons.mpr ⟨⟨labels, rfl⟩, List.forall_mem_singleton.mpr ⟨other, rfl⟩⟩
  calls := by
    intro first
    cases first with
    | false => exact List.forall_mem_singleton.mpr ⟨other, rfl⟩
    | true => exact List.forall_mem_singleton.mpr ⟨labels, rfl⟩
  left := nofun

/-- A write that comes before the copy is published. One that comes after it is not, although the
entry had yet to be published. -/
theorem flush_publishes_copy_of_switched :
    let labels : Labels := ⟨Text.ofString "east", Text.ofString "m5.xlarge"⟩
    let other : Labels := ⟨Text.ofString "east", Text.ofString "m5.large"⟩
    let s := switching labels other
    let before : List (Turn Bool) := [.producer true]
    let during : List (Turn Bool) := [.flusher, .producer false, .flusher]
    s.Labelled ∧ (execute before s).left = [] ∧
    during.count .flusher = (execute before s).metrics.store.length ∧
    (execute (before ++ .flusher :: during) s).metrics.gauge = [(labels, .zero), (other, .one)] ∧
    (execute (before ++ .flusher :: during) s).metrics.store.map (·.enabled) = [.int 0, .int 0] := by
  intro labels other s before during
  have labelled : s.Labelled := switching_labelled labels other
  obtain ⟨_, gauge, store, _⟩ := s.flush_publishes_its_copy labelled before during rfl rfl
  refine ⟨labelled, rfl, rfl, gauge.trans rfl, ?_⟩
  rw [store]
  rfl

end Shared

end ControlPlaneMetrics.Metrics
