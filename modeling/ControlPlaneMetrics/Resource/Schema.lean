import ControlPlaneMetrics.Resource.Basic
import ControlPlaneMetrics.Schema.Record

/-!
The schema of the resource: which values describe a machine set or a provider's
configuration, and the problems of those that do not.
-/
namespace ControlPlaneMetrics.Resource

open ControlPlaneMetrics.Schema

/-- A check of a value as the record of that name. -/
structure Model (α : Type) where
  name : Text
  members : List (Text × Value) → Checked α

namespace Model

def check (model : Model α) : Value → Checked α := Schema.record model.name model.members

/-- The checked value or the report of its problems. -/
def validate (model : Model α) (v : Value) : Except Report α :=
  (model.check v).mapError fun problems => ⟨model.name, problems⟩

end Model

def text : Value → Checked Text := Schema.scalar Coercion.text

def nullableText : Value → Checked (Option Text) := Schema.scalar (Coercion.optional Coercion.text)

def objectMeta : Model ObjectMeta where
  name := Text.ofString "ObjectMeta"
  members m :=
    (Checked.both ((Field.plain "name").required text m) <|
      Checked.both ((Field.plain "namespace").withDefault none nullableText m)
        ((Field.named "resourceVersion" "resource_version").withDefault none nullableText m)).map
      fun (name, ns, version) => ⟨name, ns, version⟩

def providerSpec : Model ProviderSpec where
  name := Text.ofString "ProviderSpec"
  members m := ((Field.plain "value").withDefault .null .ok m).map fun value => ⟨value⟩

def machineSpec : Model MachineSpec where
  name := Text.ofString "MachineSpec"
  members m :=
    ((Field.named "providerSpec" "provider_spec").withDefault ⟨.null⟩ providerSpec.check m).map
      fun spec => ⟨spec⟩

def failureDomains : Model FailureDomains where
  name := Text.ofString "FailureDomains"
  members m := ((Field.plain "platform").withDefault none nullableText m).map
    fun platform => ⟨platform⟩

def machineTemplate : Model MachineTemplate where
  name := Text.ofString "OpenShiftMachineV1Beta1MachineTemplate"
  members m :=
    (Checked.both ((Field.plain "spec").withDefault ⟨⟨.null⟩⟩ machineSpec.check m)
      ((Field.named "failureDomains" "failure_domains").withDefault none
        (nullable failureDomains.check) m)).map
      fun (spec, domains) => ⟨spec, domains⟩

/-- The machine section under its name on the wire or its own. -/
def machineField : Field := ⟨machineSectionName, ownNames.machine⟩

def machineSetTemplate : Model MachineSetTemplate where
  name := Text.ofString "ControlPlaneMachineSetTemplate"
  members m :=
    (Checked.both ((Field.named "machineType" "machine_type").withDefault [] text m)
      (machineField.withDefault none (nullable machineTemplate.check) m)).map
      fun (machineType, machine) => ⟨machineType, machine⟩

def machineSetSpec : Model MachineSetSpec where
  name := Text.ofString "ControlPlaneMachineSetSpec"
  members m :=
    (Checked.both ((Field.plain "state").withDefault none nullableText m) <|
      Checked.both ((Field.plain "replicas").withDefault none
          (Schema.scalar (Coercion.optional Coercion.nonNegativeInteger)) m)
        ((Field.plain "template").withDefault ⟨[], none⟩ machineSetTemplate.check m)).map
      fun (state, replicas, template) => ⟨state, replicas, template⟩

def machineSet : Model MachineSet where
  name := Text.ofString "ControlPlaneMachineSet"
  members m :=
    (Checked.both ((Field.named "apiVersion" "api_version").withDefault
        (Text.ofString "machine.openshift.io/v1") text m) <|
      Checked.both ((Field.plain "kind").withDefault
        (Text.ofString "ControlPlaneMachineSet") text m) <|
      Checked.both ((Field.plain "metadata").required objectMeta.check m)
        ((Field.plain "spec").withDefault ⟨none, none, ⟨[], none⟩⟩ machineSetSpec.check m)).map
      fun (apiVersion, kind, metadata, spec) => ⟨apiVersion, kind, metadata, spec⟩

/-- The size in an AWS machine's configuration. -/
def awsSize : Model Text where
  name := Text.ofString "AWSMachineProviderConfig"
  members := (Field.named "instanceType" "instance_type").required text

/-- The size in a GCP machine's configuration. -/
def gcpSize : Model Text where
  name := Text.ofString "GCPMachineProviderSpec"
  members := (Field.named "machineType" "machine_type").required text

def reconcileResult : Model ReconcileResult where
  name := Text.ofString "ReconcileResult"
  members m :=
    (Checked.both ((Field.plain "requeue").withDefault false (Schema.scalar Coercion.truth) m)
      ((Field.plain "requeue_after").withDefault Binary64.zero
        (Schema.scalar Coercion.nonNegativeNumber) m)).map
      fun (requeue, after) => ⟨requeue, after⟩

end ControlPlaneMetrics.Resource
