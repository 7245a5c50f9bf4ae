import ControlPlaneMetrics.Number.Binary64
import ControlPlaneMetrics.Value

/-!
The part of a control-plane machine set that is read, the sizes in a provider's
configuration, and the value that describes each of them under the fields' own
names or under the names used on the wire.
-/
namespace ControlPlaneMetrics

structure ObjectMeta where
  name : Text
  ns : Option Text
  resourceVersion : Option Text
  deriving DecidableEq

/-- The provider's blob, uninterpreted; null if absent. -/
structure ProviderSpec where
  value : Value

structure MachineSpec where
  providerSpec : ProviderSpec

structure FailureDomains where
  platform : Option Text
  deriving DecidableEq

structure MachineTemplate where
  spec : MachineSpec
  failureDomains : Option FailureDomains

/-- The declared cloud platform. -/
def MachineTemplate.platform (machine : MachineTemplate) : Option Text :=
  machine.failureDomains.bind (·.platform)

structure MachineSetTemplate where
  machineType : Text
  machine : Option MachineTemplate

structure MachineSetSpec where
  state : Option Text
  replicas : Option Int
  template : MachineSetTemplate

structure MachineSet where
  apiVersion : Text
  kind : Text
  metadata : ObjectMeta
  spec : MachineSetSpec

/-- The outcome of one reconciliation. -/
structure ReconcileResult where
  requeue : Bool
  requeueAfter : Binary64
  deriving DecidableEq

/-- The name of the machine section on the wire, which is also the machine type that goes with
it. -/
def machineSectionName : Text := Text.ofString "machines_v1beta1_machine_openshift_io"

namespace Resource

def ofOption (describe : α → Value) : Option α → Value
  | none => .null
  | some a => describe a

/-- The names under which a description lists the fields that have two. -/
structure Names where
  apiVersion : Text
  resourceVersion : Text
  providerSpec : Text
  failureDomains : Text
  machineType : Text
  machine : Text

def ownNames : Names where
  apiVersion := Text.ofString "api_version"
  resourceVersion := Text.ofString "resource_version"
  providerSpec := Text.ofString "provider_spec"
  failureDomains := Text.ofString "failure_domains"
  machineType := Text.ofString "machine_type"
  machine := Text.ofString "openshift_machine_v1beta1_machine"

def wireNames : Names where
  apiVersion := Text.ofString "apiVersion"
  resourceVersion := Text.ofString "resourceVersion"
  providerSpec := Text.ofString "providerSpec"
  failureDomains := Text.ofString "failureDomains"
  machineType := Text.ofString "machineType"
  machine := machineSectionName

def describeMeta (names : Names) (m : ObjectMeta) : Value :=
  .object [(Text.ofString "name", .text m.name),
    (Text.ofString "namespace", ofOption .text m.ns),
    (names.resourceVersion, ofOption .text m.resourceVersion)]

def describeProviderSpec (p : ProviderSpec) : Value :=
  .object [(Text.ofString "value", p.value)]

def describeMachineSpec (names : Names) (m : MachineSpec) : Value :=
  .object [(names.providerSpec, describeProviderSpec m.providerSpec)]

def describeFailureDomains (f : FailureDomains) : Value :=
  .object [(Text.ofString "platform", ofOption .text f.platform)]

def describeMachine (names : Names) (m : MachineTemplate) : Value :=
  .object [(Text.ofString "spec", describeMachineSpec names m.spec),
    (names.failureDomains, ofOption describeFailureDomains m.failureDomains)]

def describeTemplate (names : Names) (t : MachineSetTemplate) : Value :=
  .object [(names.machineType, .text t.machineType),
    (names.machine, ofOption (describeMachine names) t.machine)]

def describeSpec (names : Names) (s : MachineSetSpec) : Value :=
  .object [(Text.ofString "state", ofOption .text s.state),
    (Text.ofString "replicas", ofOption .int s.replicas),
    (Text.ofString "template", describeTemplate names s.template)]

def describe (names : Names) (m : MachineSet) : Value :=
  .object [(names.apiVersion, .text m.apiVersion),
    (Text.ofString "kind", .text m.kind),
    (Text.ofString "metadata", describeMeta names m.metadata),
    (Text.ofString "spec", describeSpec names m.spec)]

def describeResult (r : ReconcileResult) : Value :=
  .object [(Text.ofString "requeue", .bool r.requeue),
    (Text.ofString "requeue_after", .float r.requeueAfter)]

end Resource

end ControlPlaneMetrics
