import ControlPlaneMetrics.Proofs.History
import Mathlib.Data.List.Forall2

/-!
The store follows the cluster. What it holds is decided by what the objects were when they were
asked for. Events only say what to ask for: they may be late, repeated, or in any order. A listing
that is completed makes up for all that was missed.
-/
namespace ControlPlaneMetrics

open Metrics

namespace Step

/-- The same step, or two events of one kind about objects of one name. -/
inductive Alike : Step → Step → Prop
  | same (step : Step) : Alike step step
  | event {v w : Value} : Event.kind v = Event.kind w → Event.name v = Event.name w →
      Alike (.event v) (.event w)

theorem Alike.single {a b : Step} (alike : Alike a b) (single : a.Single) : b.Single := by
  cases alike with
  | same => exact single
  | event => trivial

theorem Alike.apiAfter {a b : Step} (alike : Alike a b) (target : Target) (api : Api) :
    a.apiAfter target api = b.apiAfter target api := by
  cases alike <;> rfl

theorem Alike.metricsAfter {a b : Step} (alike : Alike a b) (target : Target) (api : Api)
    (m : Metrics) : a.metricsAfter target api m = b.metricsAfter target api m := by
  cases alike with
  | same => rfl
  | @event v w kind name =>
    have asked : Event.requests target v = Event.requests target w := by
      simp [Event.requests, Event.subject?, kind, name]
    simp only [Step.metricsAfter, requests, asked]

end Step

namespace Session

/-- The sessions have the same setting, API and metrics. -/
structure Agrees (s t : Session) : Prop where
  setting : s.setting = t.setting
  api : s.exporter.api = t.exporter.api
  metrics : s.exporter.metrics = t.exporter.metrics

theorem Agrees.step {s t : Session} (agrees : s.Agrees t) {a b : Step} (alike : Step.Alike a b)
    (single : a.Single) : (s.step a).2.Agrees (t.step b).2 := by
  obtain ⟨setting, _, api, metrics⟩ := s.step_eq a single
  obtain ⟨setting', _, api', metrics'⟩ := t.step_eq b (alike.single single)
  constructor
  · rw [setting, setting', agrees.setting]
  · rw [api, api', agrees.setting, agrees.api, alike.apiAfter]
  · rw [metrics, metrics', agrees.setting, agrees.api, agrees.metrics, alike.metricsAfter]

theorem Agrees.runSteps {s t : Session} (agrees : s.Agrees t) {steps others : List Step}
    (alike : List.Forall₂ Step.Alike steps others) (single : ∀ step ∈ steps, step.Single) :
    (s.runSteps steps).Agrees (t.runSteps others) := by
  induction alike generalizing s t with
  | nil => simpa [Session.runSteps] using agrees
  | cons first rest ih =>
    obtain ⟨one, later⟩ := List.forall_mem_cons.mp single
    have next := agrees.step first one
    rw [Session.runSteps, Session.runSteps]
    exact ih next later

end Session

/-- Of the objects with these names, no two with different names have the same key. -/
def Target.KeepsApart (target : Target) (api : Api) (names : List Value) : Prop :=
  ∀ x ∈ names, ∀ y ∈ names, x ≠ y → ∀ v w, target.settle? (api.get target.ns x) = some v →
    target.settle? (api.get target.ns y) = some w → v.1.same w.1 = false

theorem Target.settled_requests (target : Target) (api : Api) (names : List Value) :
    target.settled api (names.map target.request) =
      names.filterMap fun name => target.settle? (api.get target.ns name) := by
  simp [settled, List.filterMap_map, Function.comp_def, request, Call.answer?]

/-- Where the writes to a key all give it the same state, their order does not matter. -/
theorem Metrics.lastWrite?_eq_some {key : Key} {writes : List Write} {enabled : Value} {w : Write}
    (member : w ∈ writes) (hit : w.1.same key = true)
    (all : ∀ v ∈ writes, v.1.same key = true → v.2 = enabled) :
    lastWrite? key writes = some enabled := by
  cases found : writes.reverse.find? fun v => v.1.same key with
  | none =>
    have missed := List.find?_eq_none.mp found w (by simpa using member)
    exact absurd hit missed
  | some v =>
    have last : v ∈ writes := by simpa using List.mem_of_find?_eq_some found
    have same : v.1.same key = true := by simpa using List.find?_some found
    simp [lastWrite?, found, all v last same]

/-- Whatever was stored before, a completed listing leaves each object that it names with the state
that the object has. -/
theorem Exporter.sync_settles (target : Target)
    (reflexive : target.clusterId.same target.clusterId = true) (e : Exporter) (count : Nat)
    (completed : (e.sync target).1 = .ok count) :
    ∃ names version, Lists target e.api names version ∧ (target.KeepsApart e.api names →
      ∀ name ∈ names, ∀ w, target.settle? (e.api.get target.ns name) = some w →
        (e.sync target).2.metrics.store.state? w.1 = some w.2) := by
  obtain ⟨outcome, lines, version, result, -, -, complete⟩ := e.sync_eq target
  rw [result] at completed
  obtain ⟨_, lists⟩ := complete count completed
  refine ⟨synced target e.api, version, lists, fun apart name listed w settled => ?_⟩
  let calls : List Call :=
    .list target.ns target.requestTimeout :: (synced target e.api).map target.request
  have written : target.settled e.api calls =
      (synced target e.api).filterMap fun name => target.settle? (e.api.get target.ns name) := by
    rw [Target.settled_list, Target.settled_requests]
  have member : w ∈ target.settled e.api calls := by
    rw [written]
    exact List.mem_filterMap.mpr ⟨name, listed, settled⟩
  obtain ⟨size, own⟩ := Target.settle?_key member
  have faithful := Key.faithful_typed target.clusterId reflexive
  have last : lastWrite? w.1 (target.settled e.api calls) = some w.2 := by
    refine lastWrite?_eq_some member (by rw [own]; exact faithful.refl size) ?_
    intro v other same
    rw [written] at other
    obtain ⟨name', listed', settled'⟩ := List.mem_filterMap.mp other
    -- a name may be listed twice, and then its object is written twice in the same state
    by_cases one : name' = name
    · rw [one, settled] at settled'
      cases settled'
      rfl
    · have differ := apart name' listed' name listed one v w settled' settled
      rw [same] at differ
      cases differ
  have stored := Store.state?_putAll faithful (target.settled e.api calls) e.metrics.store
    (fun _ member => Target.settle?_key member) size
  rw [← own, last] at stored
  rw [result]
  exact stored

namespace Session

/-- From an empty store, reconciling steps give each key the state of the last object that settled
it. What else an event says of its object changes nothing, and a completed listing settles every
object that it names. -/
theorem store_follows_cluster (s : Session)
    (reflexive : s.setting.target.clusterId.same s.setting.target.clusterId = true)
    (empty : s.exporter.metrics.store = []) (steps : List Step)
    (reconciling : ∀ step ∈ steps, step.Reconciling) :
    (∀ key, (s.runSteps steps).exporter.metrics.store.state? key =
      lastWrite? key ((s.answers steps).filterMap s.setting.target.settle?)) ∧
    (∀ others, List.Forall₂ Step.Alike steps others →
      (s.runSteps others).exporter.metrics.store = (s.runSteps steps).exporter.metrics.store) ∧
    (∀ (e : Exporter) count, (e.sync s.setting.target).1 = .ok count →
      ∃ names version, Exporter.Lists s.setting.target e.api names version ∧
        (s.setting.target.KeepsApart e.api names → ∀ name ∈ names, ∀ w,
          s.setting.target.settle? (e.api.get s.setting.target.ns name) = some w →
            (e.sync s.setting.target).2.metrics.store.state? w.1 = some w.2)) := by
  have single : ∀ step ∈ steps, step.Single := fun step member => (reconciling step member).single
  refine ⟨fun key => ?_, fun others alike => ?_, fun e count completed => ?_⟩
  · have faithful := Key.faithful_typed s.setting.target.clusterId reflexive
    have none : Store.Keyed (fun size : Text => Key.typed s.setting.target.clusterId (.text size)) [] :=
      nofun
    rw [s.runSteps_store [] steps single empty, s.received_of_reconciling [] steps reconciling,
      List.nil_append, none.state?_putAll faithful]
    · simp
    · exact fun w member => Target.settle?_key member
  · have agrees : s.Agrees s := ⟨rfl, rfl, rfl⟩
    rw [(agrees.runSteps alike single).metrics]
  · exact e.sync_settles s.setting.target reflexive count completed

/-- A machine set is listed and then changed, and an event comes whose object has some other
specification. -/
def lateNews (spec : Value) : List Step :=
  let changed (state : String) : Step :=
    .put (Text.ofString "machines") (Text.ofString "cluster")
      (.ok (MachineSet.onAws (Text.ofString "cluster") (Text.ofString state)
        (Text.ofString "m5.xlarge")))
  let late : Value := .object
    [(Text.ofString "type", .text (Text.ofString "ADDED")),
      (Text.ofString "object", .object
        [(Text.ofString "metadata", .object
          [(Text.ofString "name", .text (Text.ofString "cluster"))]),
          (Text.ofString "spec", spec)])]
  [changed "Active", .sync, changed "Inactive", .event late]

/-- The store has the state of the object, whatever the event says. -/
theorem store_follows_cluster_through_late_news :
    let key := Key.typed Target.east.clusterId (.text (Text.ofString "m5.xlarge"))
    Target.east.clusterId.same Target.east.clusterId = true ∧
    east.exporter.metrics.store = [] ∧
    (∀ step ∈ lateNews .null, step.Reconciling) ∧
    (east.runSteps (lateNews .null)).exporter.metrics.store.state? key = some (.bool false) ∧
    (east.runSteps (lateNews (.bool true))).exporter.metrics.store =
      (east.runSteps (lateNews .null)).exporter.metrics.store := by
  intro key
  have reconciling : ∀ step ∈ lateNews .null, step.Reconciling := by
    simp [lateNews, Step.Reconciling, Step.Single]
  have follows := east.store_follows_cluster rfl rfl (lateNews .null) reconciling
  refine ⟨rfl, rfl, reconciling, ?_, ?_⟩
  · rw [follows.1 key]
    rfl
  · exact follows.2.1 (lateNews (.bool true))
      (.cons (.same _) (.cons (.same _) (.cons (.same _) (.cons (.event rfl rfl) .nil))))

end Session

end ControlPlaneMetrics
