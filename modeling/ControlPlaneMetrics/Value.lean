import ControlPlaneMetrics.Number.Shortest
import ControlPlaneMetrics.Table
import ControlPlaneMetrics.Text.Quoted

/-!
The values that API answers, provider blobs and configuration files are made of,
the text that messages show for them, and the equality that keys are compared with.
-/
namespace ControlPlaneMetrics

inductive Value where
  | null
  | bool (b : Bool)
  | int (n : Int)
  | float (x : Binary64)
  | text (t : Text)
  | bytes (octets : List UInt8)
  | list (items : List Value)
  /-- Members in order of first appearance, with distinct names. -/
  | object (members : List (Text × Value))
  deriving Inhabited

namespace Value

instance : Coe Text Value := ⟨text⟩

/-- The word by which messages call the kind of a value. -/
def kindName : Value → Text
  | null => Text.ofString "NoneType"
  | bool _ => Text.ofString "bool"
  | int _ => Text.ofString "int"
  | float _ => Text.ofString "float"
  | text _ => Text.ofString "str"
  | bytes _ => Text.ofString "bytes"
  | list _ => Text.ofString "list"
  | object _ => Text.ofString "dict"

/-- False for null, zeros, and whatever is empty. -/
def isTruthy : Value → Bool
  | null => false
  | bool b => b
  | int n => n ≠ 0
  | float x => !x.isZero
  | text t => !t.isEmpty
  | bytes octets => !octets.isEmpty
  | list items => !items.isEmpty
  | object members => !members.isEmpty

def boolText (b : Bool) : Text := Text.ofString (if b then "True" else "False")

mutual

/-- The text of a value inside other values: texts are quoted. -/
def inspected : Value → Text
  | null => Text.ofString "None"
  | bool b => boolText b
  | int n => Text.ofInt n
  | float x => x.toText
  | text t => t.quoted
  | bytes octets => quotedOctets octets
  | list items => .char '[' :: inspectedItems items ++ [.char ']']
  | object members => .char '{' :: inspectedMembers members ++ [.char '}']

def inspectedItems : List Value → Text
  | [] => []
  | [v] => v.inspected
  | v :: rest => v.inspected ++ Text.ofString ", " ++ inspectedItems rest

def inspectedMembers : List (Text × Value) → Text
  | [] => []
  | [(name, v)] => name.quoted ++ Text.ofString ": " ++ v.inspected
  | (name, v) :: rest =>
    name.quoted ++ Text.ofString ": " ++ v.inspected ++ Text.ofString ", " ++ inspectedMembers rest

end

/-- The text of a value on its own: a text stands for itself. -/
def display : Value → Text
  | text t => t
  | v => v.inspected

/-- A list in round brackets, as positional arguments are shown. -/
def inspectedArguments (items : List Value) : Text :=
  match items with
  | [v] => .char '(' :: v.inspected ++ Text.ofString ",)"
  | items => .char '(' :: inspectedItems items ++ [.char ')']

/-- The exact number that a number or truth value stands for. -/
def integer? : Value → Option Int
  | bool b => some (if b then 1 else 0)
  | int n => some n
  | _ => none

mutual

/-- Equality of values, where numbers of different kinds are equal when their values are, and
objects are equal whatever their order. -/
def same : Value → Value → Bool
  | null, null => true
  | text s, text t => s = t
  | bytes s, bytes t => s = t
  | list s, list t => sameItems s t
  | object s, object t => s.length = t.length && sameMembers s t
  | float x, float y => x.same y
  | float x, v => match v.integer? with
    | some n => x.compareInt? n = some .eq
    | none => false
  | v, float y => match v.integer? with
    | some n => y.compareInt? n = some .eq
    | none => false
  | v, w => match v.integer?, w.integer? with
    | some m, some n => m = n
    | _, _ => false

def sameItems : List Value → List Value → Bool
  | [], [] => true
  | v :: s, w :: t => v.same w && sameItems s t
  | _, _ => false

/-- Every member has an equal one under its name. -/
def sameMembers : List (Text × Value) → List (Text × Value) → Bool
  | [], _ => true
  | (name, v) :: s, t =>
    (match lookup? name t with
      | some w => v.same w
      | none => false) && sameMembers s t

end

/-- Lists and objects cannot be part of a key. -/
def isKey : Value → Bool
  | list _ => false
  | object _ => false
  | _ => true

/-- The member of that name, if the value is an object that has it. -/
def member? (name : Text) : Value → Option Value
  | object members => lookup? name members
  | _ => none

end Value

end ControlPlaneMetrics
