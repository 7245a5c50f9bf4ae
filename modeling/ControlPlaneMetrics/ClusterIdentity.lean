import ControlPlaneMetrics.Reconcile

/-!
The identifier of the cluster, read from the cluster version when none is configured.
-/
namespace ControlPlaneMetrics

/-- The identifier that a cluster version gives; one that is false counts as absent. -/
def clusterIdOf (clusterVersion : Value) : Except Failure Value := do
  let spec ← (clusterVersion.memberOrNull (Text.ofString "spec")).mapError .misuse
  let id ← (spec.orEmpty.memberOrNull (Text.ofString "clusterID")).mapError .misuse
  if id.isTruthy then .ok id else .error .clusterIdAbsent

namespace Exporter

/-- The cluster's identifier as the API gives it. -/
def discoverClusterId (timeout : Value) (e : Exporter) : Except Failure Value × Exporter :=
  let e := e.call (.clusterVersion timeout)
  match e.api.clusterVersion with
  | .error (.api status reason) =>
    (.error (if isNotFound status then .clusterVersionNotFound else .api status reason), e)
  | .error failure => (.error failure, e)
  | .ok v =>
    match clusterIdOf v with
    | .error failure => (.error failure, e)
    | .ok id =>
      (.ok id, e.say .info .cluster (Text.ofString "Discovered cluster id: " ++ id.display))

end Exporter

end ControlPlaneMetrics
