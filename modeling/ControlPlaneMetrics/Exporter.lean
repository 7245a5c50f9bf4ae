import ControlPlaneMetrics.Api
import ControlPlaneMetrics.Log.Line
import ControlPlaneMetrics.Metrics.Gauge

/-!
The state that the exporter works on: the cluster's API, the metrics, and the version of
the resources that it has last learned. What it asks and says is kept in order.
-/
namespace ControlPlaneMetrics

/-- What is exported, and how long requests may take. -/
structure Target where
  clusterId : Value
  ns : Value
  requestTimeout : Value
  watchTimeout : Value

structure Exporter where
  api : Api
  metrics : Metrics
  /-- The version that a watch starts from; null if none is known. -/
  version : Value
  calls : List Call
  lines : List Log.Line

namespace Exporter

def initial (api : Api) : Exporter := ⟨api, ⟨[], []⟩, .null, [], []⟩

def call (e : Exporter) (c : Call) : Exporter := { e with calls := e.calls ++ [c] }

def say (e : Exporter) (severity : Log.Severity) (source : Log.Source) (t : Text) : Exporter :=
  { e with lines := e.lines ++ [⟨severity, source, t⟩] }

def set (e : Exporter) (key : Metrics.Key) (enabled : Value) : Except Misuse Exporter :=
  (Metrics.Store.set key enabled e.metrics.store).map fun store =>
    { e with metrics := { e.metrics with store := store } }

def flush (e : Exporter) : Except Misuse Unit × Exporter :=
  let (metrics, misuse?) := e.metrics.flush
  let flushed := { e with metrics := metrics }
  match misuse? with
  | some misuse => (.error misuse, flushed)
  | none =>
    (.ok (), flushed.say .debug .aggregator
      (Text.ofString "Flushed " ++ Text.ofNat metrics.store.length ++ Text.ofString " cpms series"))

/-- A flush by the clock: one that fails is reported, and the next will come. -/
def tick (e : Exporter) : Exporter :=
  match e.flush with
  | (.ok (), e) => e
  | (.error misuse, e) =>
    e.say .error .aggregator (Text.ofString "Error aggregating metrics: " ++ misuse.message)

def flushingStarted (interval clusterId : Value) (e : Exporter) : Exporter :=
  e.say .info .aggregator (Text.ofString "Metrics aggregator started (interval=" ++
    interval.display ++ Text.ofString "s, cluster_id=" ++ clusterId.display ++ Text.ofString ")")

def flushingStopped (e : Exporter) : Exporter :=
  e.say .info .aggregator (Text.ofString "Metrics aggregator stopped")

/-- An empty store in place of the present one; the gauge keeps its series. -/
def renewStore (e : Exporter) : Exporter :=
  { e with metrics := { e.metrics with store := [] } }

end Exporter

/-- An interval between flushes must not be zero or less. -/
def checkInterval (interval : Value) : Except Failure Unit :=
  let sign := match interval with
    | .float x => some (x.compareInt? 0)
    | v => v.integer?.map fun n => some (compare n 0)
  match sign with
  | none => .error (.misuse (.notOrdered interval.kindName))
  | some (some .gt) => .ok ()
  | some none => .ok ()
  | some _ => .error (.intervalNotPositive interval)

/-- Whether the clock, which counts nanoseconds in 63 bits, can wait for so many seconds. A wait
that is no number ends at once. -/
def canWait (interval : Value) : Bool :=
  let fits (num : Int) (den : Nat) : Bool := num * 1000000000 < 0x8000000000000000 * den
  match interval with
  | .float .nan => true
  | .float (.infinite negative) => negative
  | .float x => fits x.toRatio.1 x.toRatio.2
  | v => v.integer?.all fun n => fits n 1

end ControlPlaneMetrics
