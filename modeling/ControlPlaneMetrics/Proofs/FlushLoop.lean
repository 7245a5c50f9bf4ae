import ControlPlaneMetrics.Proofs.FlushTiming

/-!
Flushing by the clock. Each wait but the last is followed by one flush of what the steps have left
by then. One that breaks off at a plain row has published what came before it, and the next wait
follows like any other.
-/
namespace ControlPlaneMetrics

open Metrics

section Table

variable {κ : Type _} {α : Type _} [DecidableEq κ]

theorem lookup?_writeAll_of_unwritten {key : κ} (entries table : List (κ × α))
    (unwritten : key ∉ entries.map (·.1)) :
    lookup? key (writeAll entries table) = lookup? key table := by
  induction entries generalizing table with
  | nil => rfl
  | cons entry rest ih =>
    simp only [List.map_cons, List.mem_cons, not_or] at unwritten
    obtain ⟨other, later⟩ := unwritten
    rw [writeAll_cons, ih _ later, lookup?_write, if_neg (Ne.symm other)]

end Table

namespace Metrics

def Key.Typed : Key → Prop
  | .typed .. => True
  | .plain _ => False

namespace Store

def Typed (s : Store) : Prop := ∀ e ∈ s, e.key.Typed

theorem typed_or_broken (s : Store) :
    s.Typed ∨ ∃ before e after, s = before ++ e :: after ∧ Typed before ∧ ¬e.key.Typed := by
  induction s with
  | nil => exact .inl nofun
  | cons e rest ih =>
    cases shape : e.key with
    | plain parts =>
      have here : ¬e.key.Typed := by simp [shape, Key.Typed]
      exact .inr ⟨[], e, rest, rfl, nofun, here⟩
    | typed clusterId instanceType =>
      have here : e.key.Typed := by simp [shape, Key.Typed]
      rcases ih with typed | ⟨before, broken, after, split, typed, plain⟩
      · exact .inl (List.forall_mem_cons.mpr ⟨here, typed⟩)
      · refine .inr ⟨e :: before, broken, after, ?_, List.forall_mem_cons.mpr ⟨here, typed⟩, plain⟩
        rw [split, List.cons_append]

end Store

namespace Gauge

theorem publish_of_typed (g : Gauge) {s : Store} (typed : s.Typed) :
    g.publish s = (writeAll s.series g, none) := by
  refine Prod.ext (g.publish_eq s) ?_
  induction s generalizing g with
  | nil => rfl
  | cons e rest ih =>
    obtain ⟨here, others⟩ := List.forall_mem_cons.mp typed
    cases shape : e.key with
    | plain parts => simp [shape, Key.Typed] at here
    | typed clusterId instanceType => simpa [publish, publishEntry, shape] using ih _ others

/-- A plain row ends the flush with a failure, and its predecessors alone are published. -/
theorem publish_of_broken (g : Gauge) {before : Store} {e : Entry} (after : Store)
    (typed : before.Typed) (plain : ¬e.key.Typed) :
    ∃ misuse, g.publish (before ++ e :: after) = (writeAll before.series g, some misuse) := by
  induction before generalizing g with
  | nil =>
    cases shape : e.key with
    | plain parts =>
      refine ⟨.noMember (Text.ofString "tuple") (Text.ofString "cluster_id"), ?_⟩
      simp [publish, publishEntry, shape, Store.series, writeAll]
    | typed clusterId instanceType => simp [shape, Key.Typed] at plain
  | cons d rest ih =>
    obtain ⟨here, others⟩ := List.forall_mem_cons.mp typed
    cases shape : d.key with
    | plain parts => simp [shape, Key.Typed] at here
    | typed clusterId instanceType =>
      obtain ⟨misuse, published⟩ :=
        ih (write ⟨clusterId.display, instanceType.display⟩ (level d.enabled) g) others
      refine ⟨misuse, ?_⟩
      simpa [publish, publishEntry, shape, Store.series, writeAll_cons] using published

end Gauge

end Metrics

namespace Session

/-- The series that the gauge has when the entries are published: theirs in their order, and the
others as they were. -/
structure Publishes (s : Session) (entries : Store) (next : Session) : Prop where
  store : next.exporter.metrics.store = s.exporter.metrics.store
  gauge : next.exporter.metrics.gauge = writeAll entries.series s.exporter.metrics.gauge
  others : ∀ labels, labels ∉ entries.series.map (·.1) → next.shown labels = s.shown labels

/-- One flush, and what the clock makes of its failure. -/
inductive Flushes (s : Session) : Session → Prop where
  | whole : s.exporter.metrics.store.Typed → (s.step .aggregate).1 = .ok .done →
      s.Publishes s.exporter.metrics.store (s.step .aggregate).2 → Flushes s (s.step .aggregate).2
  | broken {misuse : Misuse} : s.exporter.metrics.store = before ++ e :: after → before.Typed →
      ¬e.key.Typed → (s.step .aggregate).1 = .error (.misuse misuse) →
      s.Publishes before (s.step .aggregate).2 →
      Flushes s ((s.step .aggregate).2.withExporter
        ((s.step .aggregate).2.exporter.say .error .aggregator
          (Text.ofString "Error aggregating metrics: " ++ misuse.message)))

/-- A run of the loop: the steps of each tick and one flush, with the series after it. Nothing is
flushed when the ticks are over. -/
inductive Loops : Session → List (List Step) → List Gauge → Session → Prop where
  | stopped (s : Session) : Loops s [] [] (s.withExporter s.exporter.flushingStopped)
  | tick : Flushes (s.runSteps steps) next → Loops next rest after last →
      Loops s (steps :: rest) (next.exporter.metrics.gauge :: after) last

theorem aggregate_publishes (s : Session) {entries : Store}
    (published : (s.exporter.metrics.gauge.publish s.exporter.metrics.store).1 =
      writeAll entries.series s.exporter.metrics.gauge) :
    s.Publishes entries (s.step .aggregate).2 := by
  have metrics := s.aggregate_metrics
  have gauge : (s.step .aggregate).2.exporter.metrics.gauge =
      writeAll entries.series s.exporter.metrics.gauge := by rw [aggregate_gauge, published]
  refine ⟨by rw [metrics]; rfl, gauge, fun labels absent => ?_⟩
  rw [shown, gauge, lookup?_writeAll_of_unwritten _ _ absent, shown]

/-- A flush by the clock is an aggregation that is reported when it fails. -/
theorem tick_eq (s : Session) : s.withExporter s.exporter.tick =
    match (s.step .aggregate).1 with
    | .error (.misuse misuse) => (s.step .aggregate).2.withExporter
        ((s.step .aggregate).2.exporter.say .error .aggregator
          (Text.ofString "Error aggregating metrics: " ++ misuse.message))
    | _ => (s.step .aggregate).2 := by
  rcases flushed : s.exporter.flush with ⟨misuse | done, e⟩ <;>
    simp [Exporter.tick, step, flushed, withExporter]

theorem flushes_tick (s : Session) : s.Flushes (s.withExporter s.exporter.tick) := by
  rw [tick_eq]
  rcases s.exporter.metrics.store.typed_or_broken with typed | ⟨before, e, after, split, typed, plain⟩
  · have published := s.exporter.metrics.gauge.publish_of_typed typed
    have done : (s.step .aggregate).1 = .ok .done := by
      simp [step, Exporter.flush, flush, published]
    rw [done]
    exact .whole typed done (s.aggregate_publishes (by rw [published]))
  · obtain ⟨misuse, published⟩ := s.exporter.metrics.gauge.publish_of_broken after typed plain
    rw [← split] at published
    have failed : (s.step .aggregate).1 = .error (.misuse misuse) := by
      simp [step, Exporter.flush, flush, published]
    rw [failed]
    exact .broken split typed plain failed (s.aggregate_publishes (by rw [published]))

theorem runTicks_loops (interval : Value) (ticks : List (List Step)) (s : Session) :
    ∃ after last, s.runTicks interval ticks =
        (List.replicate (ticks.length + 1) interval, after, last) ∧
      s.Loops ticks after last := by
  induction ticks generalizing s with
  | nil => exact ⟨[], _, rfl, .stopped s⟩
  | cons steps rest ih =>
    let found := s.runSteps steps
    obtain ⟨after, last, ran, loops⟩ := ih (found.withExporter found.exporter.tick)
    refine ⟨_, last, ?_, .tick found.flushes_tick loops⟩
    simp only [runTicks, found, ran]
    rfl

theorem Loops.series {s last : Session} {ticks : List (List Step)} {after : List Gauge}
    (loops : s.Loops ticks after last) :
    after.length = ticks.length ∧
    last.exporter.metrics.gauge = after.getLast?.getD s.exporter.metrics.gauge := by
  induction loops with
  | stopped s => exact ⟨rfl, rfl⟩
  | @tick s steps next rest after last flushes later ih =>
    obtain ⟨length, gauge⟩ := ih
    refine ⟨by simp [length], ?_⟩
    rw [gauge, List.getLast?_cons]
    rfl

/-- The loop waits once more than there are ticks, for the interval each time. Each tick is its
steps and one flush, whole or broken off, after which it goes on; and the series stay what they are
after the last flush. -/
theorem loop_flushes_once_a_tick (s : Session) (ticks : List (List Step)) :
    ∃ after last, s.step (.loop ticks) =
        (.ok (.ticked (List.replicate (ticks.length + 1) s.setting.interval) after), last) ∧
      s.Loops ticks after last ∧ after.length = ticks.length ∧
      last.exporter.metrics.gauge = after.getLast?.getD s.exporter.metrics.gauge := by
  obtain ⟨after, last, ran, loops⟩ := s.runTicks_loops s.setting.interval ticks
  refine ⟨after, last, ?_, loops, loops.series⟩
  simp only [step, ran]

/-- The flush of the second tick breaks off, and the third makes up for it. -/
example :
    let labels : Labels := ⟨Text.ofString "east", Text.ofString "m5.xlarge"⟩
    let other : Labels := ⟨Text.ofString "east", Text.ofString "m5.large"⟩
    let row : Key := .plain [.text (Text.ofString "row")]
    let ticks : List (List Step) := [[.set labels.key (.int 1)], [.set row (.int 1),
      .set other.key (.int 1), .set labels.key (.int 0)], [.newStore, .set other.key (.int 1)]]
    (east.runTicks (.int 60) ticks).2.1 =
      [[(labels, .one)], [(labels, .zero)], [(labels, .zero), (other, .one)]] := by
  decide +kernel

end Session

end ControlPlaneMetrics
