import ControlPlaneMetrics.Failure
import ControlPlaneMetrics.Resource.Schema

/-!
From a machine set's template to the instance type that it declares. Each supported
platform has one decoder for its provider blob; a later registration for a platform
replaces the earlier one.
-/
namespace ControlPlaneMetrics

abbrev Decoder := Value → Except Failure Value

/-- Decoders by platform, in order of first registration. -/
abbrev Registry := List (Text × Decoder)

namespace Provider

open Resource (Model)

/-- A blob given as text or octets is read as JSON once; any other blob is taken as it is. -/
def readBlob (platform : Text) (blob : Value) : Except Failure Value :=
  let malformed (fault : BlobFault) : Failure := .malformedProviderSpec (.text platform) fault
  let refused (source : Text) : Json.Fault → Failure
    | .nestedTooDeep container => .nestedTooDeep container
    | fault => malformed (.notJson source fault)
  match blob with
  | .text t => (Json.parse t).mapError (refused t)
  | .bytes octets =>
    match Encoding.decode octets with
    | .error fault => .error (malformed (.notText fault))
    | .ok t => (Json.parseWithin Json.assumedDepth t).mapError (refused t)
  | v => .ok v

/-- The size that a blob configures, by the platform's schema. -/
def configuredSize (platform : Text) (model : Model Text) (blob : Value) : Except Failure Value :=
  let malformed (fault : BlobFault) : Failure := .malformedProviderSpec (.text platform) fault
  match blob with
  | .null => .error (malformed .empty)
  | blob =>
    match readBlob platform blob with
    | .error failure => .error failure
    | .ok (.object members) =>
      match model.validate (.object members) with
      | .ok size => .ok (.text size)
      | .error report => .error (malformed (.notConfiguration report (.object members)))
    | .ok v => .error (malformed (.notObject v.kindName))

def aws : Text := Text.ofString "AWS"
def gcp : Text := Text.ofString "GCP"

def decodeAws : Decoder := configuredSize aws Resource.awsSize
def decodeGcp : Decoder := configuredSize gcp Resource.gcpSize

def builtIn : Registry := [(aws, decodeAws), (gcp, decodeGcp)]

def register (registry : Registry) (platform : Text) (decoder : Decoder) : Registry :=
  write platform decoder registry

/-- The decoder that gives the member of the blob that `key` picks. -/
def fieldDecoder (key : Value) : Decoder := fun blob => (blob.pick key).mapError .misuse

def supportedMachineTypes : List Text :=
  [machineSectionName, Text.ofString "OpenShiftMachineV1Beta1Machine"]

/-- The instance type that a template declares, and the platform whose decoder gave it. -/
def extract (registry : Registry) (template : MachineSetTemplate) :
    Except Failure (Text × Value) :=
  if ¬supportedMachineTypes.contains template.machineType then
    .error (.unsupportedMachineKind (.text template.machineType))
  else match template.machine with
  | none => .error (.unsupportedMachineKind (.text template.machineType))
  | some machine =>
    match machine.platform with
    | none => .error (.unsupportedPlatform .null)
    | some platform =>
      match lookup? platform registry with
      | none => .error (.unsupportedPlatform (.text platform))
      | some decoder => (decoder machine.spec.providerSpec.value).map (platform, ·)

end Provider

/-- The flag that a declared state stands for. -/
def parseState (state : Value) : Except Failure Bool :=
  if state.same (.text (Text.ofString "Active")) then .ok true
  else if state.same (.text (Text.ofString "Inactive")) then .ok false
  else .error (.invalidDeclaredState state)

/-- The machine set that a value describes. -/
def parseMachineSet (v : Value) : Except Failure MachineSet :=
  (Resource.machineSet.validate v).mapError fun report => .invalidResource report v

end ControlPlaneMetrics
