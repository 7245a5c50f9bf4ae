import ControlPlaneMetrics.Exporter
import ControlPlaneMetrics.Provider

/-!
Reconciling one machine set: it is fetched, checked and written to the store under the
cluster's identifier and the instance type that it declares. An object that is gone
changes nothing, and neither does one that fails any check.
-/
namespace ControlPlaneMetrics

structure Observation where
  platform : Text
  instanceType : Value
  enabled : Bool

/-- The observation of a fetched value: it must be a machine set, its state must be one of the two
known, and its template must declare an instance type, in this order. -/
def observe (v : Value) : Except Failure Observation := do
  let set ← parseMachineSet v
  let enabled ← parseState (Resource.ofOption .text set.spec.state)
  let (platform, instanceType) ← Provider.extract Provider.builtIn set.spec.template
  .ok ⟨platform, instanceType, enabled⟩

/-- The status by which the API says that there is no such object. -/
def isNotFound (status : Value) : Bool := status.same (.int 404)

namespace Exporter

/-- How an object is called in lines. -/
def place (ns name : Value) : Text := ns.display ++ .char '/' :: name.display

def record (target : Target) (ns name : Value) (o : Observation) (e : Exporter) :
    Except Failure ReconcileResult × Exporter :=
  let e := e.say .debug .providers (Text.ofString "Decoded " ++ o.platform ++
    Text.ofString " instance type: " ++ o.instanceType.display)
  match e.set (.typed target.clusterId o.instanceType) (.bool o.enabled) with
  | .error misuse => (.error (.misuse misuse), e)
  | .ok e =>
    (.ok ⟨false, .zero⟩, e.say .info .reconciler (Text.ofString "controlplanemachineset " ++
      place ns name ++ Text.ofString ": instance_type=" ++ o.instanceType.display ++
      Text.ofString ", enabled=" ++ Value.boolText o.enabled))

/-- One object is fetched and, if it is there and passes every check, recorded. -/
def reconcile (target : Target) (ns name : Value) (e : Exporter) :
    Except Failure ReconcileResult × Exporter :=
  let e := (e.say .debug .reconciler
    (Text.ofString "Reconciling controlplanemachineset " ++ place ns name)).call
      (.get ns name target.requestTimeout)
  match e.api.get ns name with
  | .error (.api status reason) =>
    if isNotFound status then
      (.ok ⟨false, .zero⟩, e.say .debug .reconciler (Text.ofString "controlplanemachineset " ++
        place ns name ++ Text.ofString " not found, nothing to report"))
    else (.error (.api status reason), e)
  | .error failure => (.error failure, e)
  | .ok v =>
    match observe v with
    | .error failure => (.error failure, e)
    | .ok o => record target ns name o e

def failureText (place : Text) : Failure → Text
  | .api status reason =>
    Text.ofString "API error reconciling controlplanemachineset " ++ place ++
      Text.ofString ": " ++ status.display ++ .char ' ' :: reason.display
  | failure =>
    Text.ofString (if failure.isOwn then "Failed to reconcile controlplanemachineset "
      else "Unexpected error reconciling controlplanemachineset ") ++ place ++
      Text.ofString ": " ++ failure.message

/-- A reconciliation whose failure is reported once and not retried. Only a request to exit is not
kept back. -/
def attempt (target : Target) (name : Value) (e : Exporter) : Except Failure Unit × Exporter :=
  match e.reconcile target target.ns name with
  | (.ok _, e) => (.ok (), e)
  | (.error failure, e) =>
    if failure.isExit then (.error failure, e)
    else (.ok (), e.say .error .watcher (failureText (place target.ns name) failure))

end Exporter

end ControlPlaneMetrics
