import ControlPlaneMetrics.Proofs.Publication

/-!
When the flushes fall between the writes of a store does not show. A store only ever grows at its
end, so a later flush writes every series that an earlier one wrote, in the same order, and what
the earlier one gave it is lost.
-/
namespace ControlPlaneMetrics

section Table

variable {κ : Type _} {α : Type _} [DecidableEq κ]

/-- The table after the entries are written, in their order. -/
def writeAll (entries table : List (κ × α)) : List (κ × α) :=
  entries.foldl (fun table entry => write entry.1 entry.2 table) table

theorem writeAll_cons (entry : κ × α) (entries table : List (κ × α)) :
    writeAll (entry :: entries) table = writeAll entries (write entry.1 entry.2 table) := rfl

/-- A write is lost if its key is written again, and nothing new comes before that. -/
theorem writeAll_write (before after : List (κ × α)) (key : κ) (a b : α) (table : List (κ × α))
    (known : ∀ entry ∈ before, entry.1 ∈ table.map (·.1)) :
    writeAll (before ++ (key, b) :: after) (write key a table) =
      writeAll (before ++ (key, b) :: after) table := by
  induction before generalizing table with
  | nil => simp [writeAll_cons, write_write]
  | cons entry rest ih =>
    obtain ⟨here, others⟩ := List.forall_mem_cons.mp known
    rw [List.cons_append, writeAll_cons, writeAll_cons]
    by_cases same : entry.1 = key
    · rw [same, write_write]
    · rw [write_comm same _ _ here]
      exact ih _ fun other member => mem_keys_write _ (.inr (others other member))

/-- Writes are lost if the keys are written again in the same order, from the first on. -/
theorem writeAll_writeAll (first before rest table : List (κ × α))
    (again : first.map (·.1) <+: rest.map (·.1))
    (known : ∀ entry ∈ before, entry.1 ∈ table.map (·.1)) :
    writeAll (before ++ rest) (writeAll first table) = writeAll (before ++ rest) table := by
  induction first generalizing before rest table with
  | nil => rfl
  | cons entry first ih =>
    obtain ⟨key, a⟩ := entry
    cases rest with
    | nil => simp at again
    | cons next rest =>
      obtain ⟨other, b⟩ := next
      simp only [List.map_cons, List.cons_prefix_cons] at again
      obtain ⟨rfl, again⟩ := again
      have later := ih (before ++ [(key, b)]) rest (write key a table) again fun entry member => by
        rcases List.mem_append.mp member with old | new
        · exact mem_keys_write a (.inr (known entry old))
        · exact mem_keys_write a (.inl (by rw [List.mem_singleton.mp new]))
      simp only [List.append_assoc, List.singleton_append] at later
      rw [writeAll_cons, later, writeAll_write before rest key a b table known]

end Table

namespace Metrics

namespace Store

/-- What a flush writes, up to the first key that is a plain row. -/
def series : Store → List (Labels × Binary64)
  | [] => []
  | e :: rest =>
    match e.key with
    | .typed clusterId instanceType =>
      (⟨clusterId.display, instanceType.display⟩, Gauge.level e.enabled) :: series rest
    | .plain _ => []

/-- The keys alone decide which series are written, and more of them never fewer. -/
theorem series_prefix {s later : Store} (grown : s.map (·.key) <+: later.map (·.key)) :
    (series s).map (·.1) <+: (series later).map (·.1) := by
  induction s generalizing later with
  | nil => exact List.nil_prefix
  | cons e rest ih =>
    cases later with
    | nil => simp at grown
    | cons d later =>
      obtain ⟨same, grown⟩ := List.cons_prefix_cons.mp grown
      cases shape : d.key with
      | typed clusterId instanceType => simpa [series, same, shape] using ih grown
      | plain parts => simp [series, same, shape]

theorem keys_prefix_put (key : Key) (enabled : Value) (s : Store) :
    s.map (·.key) <+: (put key enabled s).map (·.key) := by
  rcases put_written key enabled s with ⟨before, e, after, rfl, _, _, result⟩ | ⟨_, result⟩
  · simp [result]
  · simp [result]

end Store

theorem Gauge.publish_eq (g : Gauge) (s : Store) : (g.publish s).1 = writeAll s.series g := by
  induction s generalizing g with
  | nil => rfl
  | cons e rest ih =>
    cases shape : e.key with
    | typed clusterId instanceType =>
      simpa [publish, publishEntry, Store.series, shape, writeAll_cons] using ih _
    | plain parts => simp [publish, publishEntry, Store.series, shape, writeAll]

/-- A flush makes up for every earlier flush of what the store has grown from. -/
theorem Gauge.publish_publish (g : Gauge) {s later : Store}
    (grown : s.map (·.key) <+: later.map (·.key)) :
    ((g.publish s).1.publish later).1 = (g.publish later).1 := by
  rw [publish_eq, publish_eq, publish_eq]
  exact writeAll_writeAll s.series [] later.series g (Store.series_prefix grown) (by simp)

/-- The next flush will make of the gauge what it would have made of another. -/
def CatchesUp (g : Gauge) (m : Metrics) : Prop :=
  ∀ later : Store, m.store.map (·.key) <+: later.map (·.key) →
    (m.gauge.publish later).1 = (g.publish later).1

theorem CatchesUp.put {g : Gauge} {m : Metrics} (catches : CatchesUp g m) (key : Key)
    (enabled : Value) : CatchesUp g { m with store := Store.put key enabled m.store } := by
  intro later grown
  have start := Store.keys_prefix_put key enabled m.store
  exact catches later (start.trans grown)

theorem CatchesUp.flush {g : Gauge} {m : Metrics} (catches : CatchesUp g m) :
    CatchesUp g m.flush.1 := by
  intro later grown
  have now := m.gauge.publish_publish grown
  exact now.trans (catches later grown)

end Metrics

open Metrics

/-- The steps make the writes, in their order, with flushes anywhere among them. -/
inductive Step.Interspersed : List Write → List Step → Prop where
  | nil : Interspersed [] []
  | set (labels : Labels) (enabled : Value) : Interspersed writes steps →
      Interspersed ((labels.key, enabled) :: writes) (.set labels.key enabled :: steps)
  | aggregate : Interspersed writes steps → Interspersed writes (.aggregate :: steps)

namespace Session

variable {writes : List Write} {steps others : List Step}

theorem set_metrics (s : Session) (labels : Labels) (enabled : Value) :
    (s.step (.set labels.key enabled)).2.exporter.metrics =
      { s.exporter.metrics with
        store := Store.put labels.key enabled s.exporter.metrics.store } := by
  rw [(s.step_eq (.set labels.key enabled) trivial).2.2.2]
  simp [Step.metricsAfter, labels.key_misuse?]

theorem aggregate_metrics (s : Session) :
    (s.step .aggregate).2.exporter.metrics = s.exporter.metrics.flush.1 :=
  (s.step_eq .aggregate trivial).2.2.2

/-- Whatever has been flushed among the writes, the store has them all, and a flush catches up. -/
theorem catchesUp_runSteps {g : Gauge} (spread : Step.Interspersed writes steps) {s : Session}
    (catches : CatchesUp g s.exporter.metrics) :
    (s.runSteps steps).exporter.metrics.store = Store.putAll writes s.exporter.metrics.store ∧
    CatchesUp g (s.runSteps steps).exporter.metrics := by
  induction spread generalizing s with
  | nil => exact ⟨rfl, catches⟩
  | set labels enabled _ ih =>
    have next : CatchesUp g (s.step (.set labels.key enabled)).2.exporter.metrics := by
      rw [set_metrics]
      exact catches.put labels.key enabled
    obtain ⟨store, later⟩ := ih next
    rw [set_metrics] at store
    rw [runSteps]
    exact ⟨store, later⟩
  | aggregate _ ih =>
    have next : CatchesUp g (s.step .aggregate).2.exporter.metrics := by
      rw [aggregate_metrics]
      exact catches.flush
    obtain ⟨store, later⟩ := ih next
    rw [aggregate_metrics] at store
    rw [runSteps]
    exact ⟨store, later⟩

/-- A flush at the end leaves what it would have left as the only one. -/
theorem metrics_of_interspersed (spread : Step.Interspersed writes steps) (s : Session) :
    (s.runSteps (steps ++ [.aggregate])).exporter.metrics =
      (Metrics.mk (Store.putAll writes s.exporter.metrics.store) s.exporter.metrics.gauge).flush.1 := by
  obtain ⟨store, catches⟩ := catchesUp_runSteps (s := s) spread fun _ _ => rfl
  have flushed := catches _ (List.prefix_refl _)
  rw [runSteps_append, runSteps, runSteps, aggregate_metrics]
  simp only [flush]
  rw [flushed, store]

/-- From any store and gauge, and with any flushes among the same writes: after a last flush the
series are the same, in the same order and with the same values, and so is the text of them. -/
theorem flush_times_do_not_show (s : Session) (spread : Step.Interspersed writes steps)
    (spread' : Step.Interspersed writes others) :
    let after := s.runSteps (steps ++ [.aggregate])
    let after' := s.runSteps (others ++ [.aggregate])
    after.exporter.metrics.gauge =
      (s.exporter.metrics.gauge.publish (Store.putAll writes s.exporter.metrics.store)).1 ∧
    after'.exporter.metrics.gauge = after.exporter.metrics.gauge ∧
    (after'.step .exposition).1 = (after.step .exposition).1 := by
  intro after after'
  have same : after'.exporter.metrics = after.exporter.metrics :=
    (metrics_of_interspersed spread' s).trans (metrics_of_interspersed spread s).symm
  refine ⟨?_, by rw [same], ?_⟩
  · rw [metrics_of_interspersed spread s]
    rfl
  · simp only [Session.step, same]

/-- Two series are written, the first of them twice. -/
def rewritten (labels other : Labels) : List Write :=
  [(labels.key, .int 1), (other.key, .int 1), (labels.key, .int 0)]

/-- A flush after the first write shows neither in what the series are nor in their order. -/
theorem early_flush_does_not_show :
    let labels : Labels := ⟨Text.ofString "east", Text.ofString "m5.xlarge"⟩
    let other : Labels := ⟨Text.ofString "east", Text.ofString "m5.large"⟩
    let late : List Step := [.set labels.key (.int 1), .set other.key (.int 1),
      .set labels.key (.int 0)]
    let early : List Step := .set labels.key (.int 1) :: .aggregate :: late.tail
    Step.Interspersed (rewritten labels other) early ∧
    Step.Interspersed (rewritten labels other) late ∧
    (east.runSteps (early ++ [.aggregate])).exporter.metrics.gauge =
      [(labels, .zero), (other, .one)] ∧
    (east.runSteps (late ++ [.aggregate])).exporter.metrics.gauge =
      [(labels, .zero), (other, .one)] := by
  intro labels other late early
  have lateSpread : Step.Interspersed (rewritten labels other) late :=
    .set labels _ (.set other _ (.set labels _ .nil))
  have earlySpread : Step.Interspersed (rewritten labels other) early :=
    .set labels _ (.aggregate (.set other _ (.set labels _ .nil)))
  obtain ⟨shown, same, _⟩ := east.flush_times_do_not_show earlySpread lateSpread
  have series : (east.runSteps (early ++ [.aggregate])).exporter.metrics.gauge =
      [(labels, .zero), (other, .one)] := shown.trans rfl
  exact ⟨earlySpread, lateSpread, series, same.trans series⟩

end Session

end ControlPlaneMetrics
