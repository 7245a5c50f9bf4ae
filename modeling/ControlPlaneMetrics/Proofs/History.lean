import ControlPlaneMetrics.Proofs.Delivery
import ControlPlaneMetrics.Session

/-!
The history of a session's store. A step makes its own write, or those that the answers to its
requests settle. The store is made of the writes since it was last replaced, and what a key
has in it is what the last of them gave it.
-/
namespace ControlPlaneMetrics

open Metrics

namespace Step

/-- One operation on the exporter that the session has, neither a run of many nor a new one. -/
def Single : Step → Prop
  | .renew _ | .loop _ | .watchOnce .. | .runController .. => False
  | _ => True

/-- As `Single`, and the store is written by reconciliations alone. -/
def Reconciling : Step → Prop
  | .set .. | .newStore => False
  | step => step.Single

theorem Reconciling.single {step : Step} (reconciling : step.Reconciling) : step.Single := by
  cases step with
  | set | newStore => exact reconciling.elim
  | _ => exact reconciling

def requests (target : Target) (api : Api) : Step → List Call
  | .discover timeout => [.clusterVersion timeout]
  | .reconcile ns name => [.get ns name target.requestTimeout]
  | .sync => .list target.ns target.requestTimeout :: (Exporter.synced target api).map target.request
  | .event v => Event.requests target v
  | _ => []

def apiAfter (target : Target) (api : Api) : Step → Api
  | .put ns name answer => api.put ns name answer
  | .delete ns name => api.delete ns name
  | .scriptListing answer => { api with listings := api.listings ++ [answer] }
  | .scriptCluster answer => { api with cluster := some answer }
  | .sync => (api.list target.ns).2
  | _ => api

def metricsAfter (target : Target) (api : Api) (m : Metrics) : Step → Metrics
  | .set key enabled =>
    if key.misuse?.isSome then m else { m with store := Store.put key enabled m.store }
  | .aggregate => m.flush.1
  | .newStore => { m with store := [] }
  | step => { m with store := Store.putAll (target.settled api (step.requests target api)) m.store }

end Step

namespace Exporter

theorem flush_metrics (e : Exporter) : e.flush.2 = { e with
    metrics := e.metrics.flush.1
    lines := e.flush.2.lines } := by
  rcases flushed : e.metrics.flush with ⟨m, _ | misuse⟩ <;> simp [flush, flushed, say]

theorem discoverClusterId_eq (timeout : Value) (e : Exporter) :
    (e.discoverClusterId timeout).2 = { e with
      calls := e.calls ++ [.clusterVersion timeout]
      lines := (e.discoverClusterId timeout).2.lines } := by
  simp only [discoverClusterId, call]
  split
  · rfl
  · rfl
  · split <;> rfl

end Exporter

namespace Session

/-- Everything that a single step does but for what is said, learned and held. -/
theorem step_eq (s : Session) (step : Step) (single : step.Single) :
    (s.step step).2.setting = s.setting ∧
    (s.step step).2.exporter.calls =
      s.exporter.calls ++ step.requests s.setting.target s.exporter.api ∧
    (s.step step).2.exporter.api = step.apiAfter s.setting.target s.exporter.api ∧
    (s.step step).2.exporter.metrics =
      step.metricsAfter s.setting.target s.exporter.api s.exporter.metrics := by
  cases step with
  | renew | loop | watchOnce | runController => exact single.elim
  | set key enabled =>
    cases misused : key.misuse? <;>
      simp [Session.step, Exporter.set, Store.set, Except.map, misused, withExporter,
        Step.requests, Step.apiAfter, Step.metricsAfter]
  | aggregate =>
    simp only [Session.step, withExporter]
    rw [Exporter.flush_metrics]
    simp [Step.requests, Step.apiAfter, Step.metricsAfter]
  | discover timeout =>
    simp only [Session.step, replied, withExporter]
    rw [Exporter.discoverClusterId_eq]
    exact ⟨trivial, rfl, rfl, rfl⟩
  | reconcile ns name =>
    obtain ⟨lines, result⟩ := s.exporter.reconcile_eq s.setting.target ns name
    simp only [Session.step, replied, withExporter, result]
    exact ⟨trivial, rfl, rfl, rfl⟩
  | sync =>
    obtain ⟨outcome, lines, version, result, -⟩ := s.exporter.sync_eq s.setting.target
    simp only [Session.step, replied, withExporter, result]
    exact ⟨trivial, rfl, rfl, rfl⟩
  | event v =>
    obtain ⟨outcome, lines, version, result, -⟩ := s.exporter.handleEvent_eq s.setting.target v
    simp only [Session.step, replied, withExporter, result]
    exact ⟨trivial, rfl, rfl, rfl⟩
  | run =>
    by_cases running : s.flushing = .running <;>
      simp [Session.step, startFlushing, running, Exporter.flushingStarted, Exporter.say,
        Step.requests, Step.apiAfter, Step.metricsAfter]
  | stop =>
    cases flushing : s.flushing <;> by_cases waits : canWait s.setting.interval <;>
      simp [Session.step, stopFlushing, flushing, waits, Exporter.flushingStopped, Exporter.say,
        Step.requests, Step.apiAfter, Step.metricsAfter]
  | _ =>
    simp [Session.step, withExporter, withApi, Exporter.renewStore, Step.requests, Step.apiAfter,
      Step.metricsAfter]

/-- The answers to a step's requests for single objects. -/
def fetched (s : Session) (step : Step) : List Answer :=
  ((s.step step).2.exporter.calls.drop s.exporter.calls.length).filterMap
    (Call.answer? s.exporter.api)

/-- The answers that the steps get, in order. -/
def answers (s : Session) : List Step → List Answer
  | [] => []
  | first :: rest => s.fetched first ++ (s.step first).2.answers rest

/-- The writes of a step: its own, or those of the reconciliations that it makes. -/
def writes (s : Session) : Step → List Write
  | .set key enabled => if key.misuse?.isSome then [] else [(key, enabled)]
  | step => (s.fetched step).filterMap s.setting.target.settle?

/-- The writes that the store has received after a step, if it had received some before. -/
def receive (s : Session) (known : List Write) : Step → List Write
  | .newStore => []
  | step => known ++ s.writes step

/-- The writes that the store has received after the steps. -/
def received (s : Session) (known : List Write) : List Step → List Write
  | [] => known
  | first :: rest => (s.step first).2.received (s.receive known first) rest

theorem fetched_eq (s : Session) (step : Step) (single : step.Single) :
    s.fetched step = (step.requests s.setting.target s.exporter.api).filterMap
      (Call.answer? s.exporter.api) := by
  obtain ⟨_, calls, _⟩ := s.step_eq step single
  simp [fetched, calls]

theorem runSteps_append (s : Session) (first second : List Step) :
    s.runSteps (first ++ second) = (s.runSteps first).runSteps second := by
  induction first generalizing s with
  | nil => simp [runSteps]
  | cons step rest ih => simpa [runSteps] using ih (s.step step).2

/-- A step keeps the store to be made of the writes it has received. -/
theorem step_store (s : Session) (known : List Write) (step : Step) (single : step.Single)
    (made : s.exporter.metrics.store = Store.putAll known []) :
    (s.step step).2.exporter.metrics.store = Store.putAll (s.receive known step) [] := by
  obtain ⟨_, _, _, metrics⟩ := s.step_eq step single
  have fetched := s.fetched_eq step single
  rw [metrics]
  cases step with
  | renew | loop | watchOnce | runController => exact single.elim
  | newStore => rfl
  | set key enabled =>
    cases misused : key.misuse? <;>
      simp [Step.metricsAfter, receive, writes, misused, made, Store.putAll_append]
    rfl
  | aggregate => simp [Step.metricsAfter, receive, writes, fetched, Step.requests, flush, made]
  | _ =>
    simp only [Step.metricsAfter, receive, writes, fetched, Store.putAll_append, ← made]
    rfl

theorem runSteps_store (s : Session) (known : List Write) (steps : List Step)
    (single : ∀ step ∈ steps, step.Single)
    (made : s.exporter.metrics.store = Store.putAll known []) :
    (s.runSteps steps).exporter.metrics.store = Store.putAll (s.received known steps) [] := by
  induction steps generalizing s known with
  | nil => simpa [runSteps, received] using made
  | cons step rest ih =>
    obtain ⟨first, later⟩ := List.forall_mem_cons.mp single
    have next := s.step_store known step first made
    rw [runSteps, received]
    exact ih _ _ later next

/-- Steps that only reconcile bring the store nothing but what the answers to them settle. -/
theorem received_of_reconciling (s : Session) (known : List Write) (steps : List Step)
    (reconciling : ∀ step ∈ steps, step.Reconciling) :
    s.received known steps = known ++ (s.answers steps).filterMap s.setting.target.settle? := by
  induction steps generalizing s known with
  | nil => simp [received, answers]
  | cons step rest ih =>
    obtain ⟨first, later⟩ := List.forall_mem_cons.mp reconciling
    have received := ih (s.step step).2 (s.receive known step) later
    have one : s.receive known step = known ++ (s.fetched step).filterMap s.setting.target.settle? := by
      cases step with
      | set | newStore => exact first.elim
      | _ => rfl
    rw [(s.step_eq step first.single).1] at received
    rw [Session.received, answers, received, one, List.filterMap_append, List.append_assoc]

/-- A session under the cluster `east` that has done nothing so far. -/
def east : Session where
  setting := ⟨.int 60, Target.east, .null⟩
  flushing := .never
  exporter := Exporter.initial Api.empty
  held := []

end Session

end ControlPlaneMetrics
