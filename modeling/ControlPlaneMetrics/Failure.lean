import ControlPlaneMetrics.Json.Reader
import ControlPlaneMetrics.Schema.Wording
import ControlPlaneMetrics.Text.Encoding

/-!
Why a machine set, an API answer or an event could not be turned into metrics. Each
cause is a constructor; `Failure.message` is the one place that words them.
-/
namespace ControlPlaneMetrics

inductive BlobFault where
  | empty
  | notJson (source : Text) (fault : Json.Fault)
  | notText (fault : EncodingFault)
  | notObject (kind : Text)
  /-- The object does not fit the platform's schema. -/
  | notConfiguration (report : Schema.Report) (blob : Value)
  /-- A reason given from outside. -/
  | stated (reason : Value)

def BlobFault.reason : BlobFault → Value
  | empty => .text (Text.ofString "providerSpec.value is empty")
  | notJson source fault => .text (Text.ofString "invalid JSON: " ++ fault.message source)
  | notText fault => .text (Text.ofString "invalid JSON: " ++ fault.message)
  | notObject kind => .text (Text.ofString "expected an object, got " ++ kind)
  | notConfiguration report blob => .text (report.text blob)
  | stated reason => reason

/-- Something was asked of a value that its kind does not offer. -/
inductive Misuse where
  | noMember (kind member : Text)
  | notIndexable (kind : Text)
  | notIterable (kind : Text)
  | notSearchable (kind : Text)
  | octetsSearched
  | textIndexedBy (kind : Text)
  | listIndexedBy (kind : Text)
  | octetsIndexedBy (kind : Text)
  /-- `sequence` names what was too short. -/
  | indexTooLarge (sequence : Text)
  | keyAbsent (key : Value)
  | notKey (kind : Text)
  | notOrdered (kind : Text)
  | readOnly
  | notMapping (record kind : Text)
  | namesNotText

def Misuse.message : Misuse → Text
  | noMember kind member => Text.ofString "'" ++ kind ++ Text.ofString "' object has no attribute '"
      ++ member ++ Text.ofString "'"
  | notIndexable kind =>
    Text.ofString "'" ++ kind ++ Text.ofString "' object is not subscriptable"
  | notIterable kind => Text.ofString "'" ++ kind ++ Text.ofString "' object is not iterable"
  | notSearchable kind =>
    Text.ofString "argument of type '" ++ kind ++ Text.ofString "' is not iterable"
  | octetsSearched => Text.ofString "a bytes-like object is required, not 'str'"
  | textIndexedBy kind =>
    Text.ofString "string indices must be integers, not '" ++ kind ++ Text.ofString "'"
  | listIndexedBy kind =>
    Text.ofString "list indices must be integers or slices, not " ++ kind
  | octetsIndexedBy kind =>
    Text.ofString "byte indices must be integers or slices, not " ++ kind
  | indexTooLarge sequence => sequence ++ Text.ofString "index out of range"
  | keyAbsent key => key.inspected
  | notKey kind => Text.ofString "unhashable type: '" ++ kind ++ Text.ofString "'"
  | notOrdered kind =>
    Text.ofString "'<=' not supported between instances of '" ++ kind ++ Text.ofString "' and 'int'"
  | readOnly => Text.ofString "'mappingproxy' object does not support item assignment"
  | notMapping record kind =>
    record ++ Text.ofString "() argument after ** must be a mapping, not " ++ kind
  | namesNotText => Text.ofString "keywords must be strings"

/-- The families of the service's own failures that say nothing but their arguments. -/
inductive Family where
  | exporter
  | decode
  | invalidResource
  | clusterIdNotFound
  deriving DecidableEq

/-- What a collaborator's failure is about. -/
inductive Foreign where
  | key
  | value
  | credentials
  | interrupt
  | exit
  | other
  deriving DecidableEq

inductive Failure where
  | unsupportedPlatform (platform : Value)
  | unsupportedMachineKind (machineType : Value)
  | malformedProviderSpec (platform : Value) (fault : BlobFault)
  | invalidDeclaredState (state : Value)
  | invalidResource (report : Schema.Report) (resource : Value)
  | clusterVersionNotFound
  | clusterIdAbsent
  | stated (family : Family) (arguments : List Value)
  | api (status reason : Value)
  /-- A JSON text opens more containers than the reader follows. -/
  | nestedTooDeep (container : Json.Container)
  | misuse (misuse : Misuse)
  | intervalNotPositive (interval : Value)
  /-- A text that has to be sent holds half of a surrogate pair. -/
  | unpaired (fault : UnpairedFault)
  /-- A failure of a collaborator, with the name that it goes by and its text. -/
  | foreign (kind : Foreign) (name text : Text)

namespace Failure

def argumentsText : List Value → Text
  | [] => []
  | [v] => v.display
  | arguments => Value.inspectedArguments arguments

def message : Failure → Text
  | unsupportedPlatform platform => Text.ofString "unsupported platform: " ++ platform.inspected
  | unsupportedMachineKind machineType =>
    Text.ofString "unsupported machine type: " ++ machineType.inspected
  | malformedProviderSpec platform fault =>
    Text.ofString "malformed " ++ platform.display ++ Text.ofString " provider spec: " ++
      fault.reason.display
  | invalidDeclaredState state =>
    Text.ofString "invalid controlplanemachineset state: " ++ state.inspected
  | invalidResource report resource =>
    Text.ofString "invalid controlplanemachineset: " ++ report.text resource
  | clusterVersionNotFound => Text.ofString "clusterversion 'version' not found"
  | clusterIdAbsent => Text.ofString "clusterversion 'version' has no spec.clusterID"
  | stated _ arguments => argumentsText arguments
  | api status reason =>
    Text.ofString "(" ++ status.display ++ Text.ofString ")\nReason: " ++ reason.display ++
      Text.ofString "\n"
  | nestedTooDeep container => Json.Fault.message [] (.nestedTooDeep container)
  | misuse m => m.message
  | intervalNotPositive interval =>
    Text.ofString "aggregation_interval must be positive, got " ++ interval.display
  | unpaired fault => fault.message
  | foreign .key _ text => text.quoted
  | foreign _ _ text => text

/-- A failure that the service itself defines. -/
def isOwn : Failure → Bool
  | unsupportedPlatform _ => true
  | unsupportedMachineKind _ => true
  | malformedProviderSpec _ _ => true
  | invalidDeclaredState _ => true
  | invalidResource _ _ => true
  | clusterVersionNotFound => true
  | clusterIdAbsent => true
  | stated _ _ => true
  | _ => false

/-- Failures that a start is prepared for: the service's own, the API's, and values and credentials
that cannot be accepted. -/
def isExpected : Failure → Bool
  | api _ _ => true
  | intervalNotPositive _ => true
  | unpaired _ => true
  | foreign .value _ _ => true
  | foreign .credentials _ _ => true
  | failure => failure.isOwn

/-- Interrupts and requests to exit, which no handler of failures keeps back. -/
def isExit : Failure → Bool
  | foreign .interrupt _ _ => true
  | foreign .exit _ _ => true
  | _ => false

end Failure

namespace Value

/-- An element of a sequence by position, from the end if negative. -/
def atPosition? (items : List α) (n : Int) : Option α :=
  if 0 ≤ n then items[n.toNat]?
  else if -n ≤ items.length then items[(items.length + n).toNat]?
  else none

/-- The member of an object or element of a sequence that `key` picks. -/
def pick (v key : Value) : Except Misuse Value :=
  match v with
  | object members =>
    if ¬key.isKey then .error (.notKey key.kindName)
    else match key with
    | text name => match lookup? name members with
      | some w => .ok w
      | none => .error (.keyAbsent key)
    | _ => .error (.keyAbsent key)
  | list items => match key.integer? with
    | some n => match atPosition? items n with
      | some w => .ok w
      | none => .error (.indexTooLarge (Text.ofString "list "))
    | none => .error (.listIndexedBy key.kindName)
  | text t => match key.integer? with
    | some n => match atPosition? t n with
      | some c => .ok (.text [c])
      | none => .error (.indexTooLarge (Text.ofString "string "))
    | none => .error (.textIndexedBy key.kindName)
  | bytes octets => match key.integer? with
    | some n => match atPosition? octets n with
      | some octet => .ok (.int octet.toNat)
      | none => .error (.indexTooLarge [])
    | none => .error (.octetsIndexedBy key.kindName)
  | v => .error (.notIndexable v.kindName)

/-- The member of that name, null if the object lacks it. -/
def memberOrNull (name : Text) (v : Value) : Except Misuse Value :=
  match v with
  | object members => .ok ((lookup? name members).getD .null)
  | v => .error (.noMember v.kindName (Text.ofString "get"))

/-- The elements that going through the value yields: of an object its names. -/
def elements (v : Value) : Except Misuse (List Value) :=
  match v with
  | list items => .ok items
  | object members => .ok (members.map fun (name, _) => .text name)
  | text t => .ok (t.map fun c => .text [c])
  | bytes octets => .ok (octets.map fun octet => .int octet.toNat)
  | v => .error (.notIterable v.kindName)

/-- The value, or an empty object in place of null and whatever else is false. -/
def orEmpty (v : Value) : Value := if v.isTruthy then v else .object []

end Value

end ControlPlaneMetrics
