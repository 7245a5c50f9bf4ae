import ControlPlaneMetrics.Metrics.Store

/-!
The published gauge: one series for each combination of labels that was ever flushed,
in the order of first publication. A flush publishes the entries of the store one
after the other, and ends at the first whose key is a plain row.
-/
namespace ControlPlaneMetrics

namespace Binary64

def one : Binary64 := .finite false 0x10000000000000 (-52) (by decide)

end Binary64

namespace Metrics

structure Labels where
  clusterId : Text
  instanceType : Text
  deriving DecidableEq

/-- The series and their values. -/
abbrev Gauge := List (Labels × Binary64)

namespace Gauge

def metricName : Text := Text.ofString "cpms_enabled"
def metricHelp : Text := Text.ofString "Indicates if the controlplanemachineset is enabled"
def clusterIdLabel : Text := Text.ofString "_id"
def instanceTypeLabel : Text := Text.ofString "label_node_kubernetes_io_instance_type"

/-- The value that stands for a state. -/
def level (enabled : Value) : Binary64 := if enabled.isTruthy then .one else .zero

/-- The gauge after one entry is published. -/
def publishEntry (g : Gauge) (e : Entry) : Except Misuse Gauge :=
  match e.key with
  | .typed clusterId instanceType =>
    .ok (write ⟨clusterId.display, instanceType.display⟩ (level e.enabled) g)
  | .plain _ => .error (.noMember (Text.ofString "tuple") (Text.ofString "cluster_id"))

/-- The gauge after the entries are published in order, up to the first that cannot be. -/
def publish (g : Gauge) : List Entry → Gauge × Option Misuse
  | [] => (g, none)
  | e :: rest =>
    match g.publishEntry e with
    | .ok g => publish g rest
    | .error misuse => (g, some misuse)

/-- The value of the series with those labels. -/
def sample? (g : Gauge) (clusterId instanceType : Value) : Option Binary64 :=
  match clusterId, instanceType with
  | .text c, .text t => lookup? ⟨c, t⟩ g
  | _, _ => none

end Gauge

end Metrics

/-- The store and the gauge that it is flushed into. -/
structure Metrics where
  store : Metrics.Store
  gauge : Metrics.Gauge

namespace Metrics

/-- The entries of the store are published. -/
def flush (m : Metrics) : Metrics × Option Misuse :=
  let (gauge, misuse?) := m.gauge.publish m.store
  ({ m with gauge := gauge }, misuse?)

end Metrics

end ControlPlaneMetrics
