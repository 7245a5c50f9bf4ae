import ControlPlaneMetrics.Schema.Coercion
import ControlPlaneMetrics.Yaml.Node

/-!
The values of YAML documents. Scalars are made when the collection that holds them is,
and collections level by level, so that of several nodes that stand for no value the
one on the outermost level is found first. Merged mappings come before a mapping's own
entries.
-/
namespace ControlPlaneMetrics.Yaml

inductive Value where
  | null
  | bool (b : Bool)
  | int (n : Int)
  | float (x : Binary64)
  | text (t : Text)
  | bytes (octets : List UInt8)
  | date
  | dateTime
  | list (items : List Value)
  | set (items : List Value)
  | mapping (entries : List (Value × Value))
  deriving Inhabited

namespace Value

/-- The word by which messages call the kind of a value. -/
def kindName : Value → Text
  | null => Text.ofString "NoneType"
  | bool _ => Text.ofString "bool"
  | int _ => Text.ofString "int"
  | float _ => Text.ofString "float"
  | text _ => Text.ofString "str"
  | bytes _ => Text.ofString "bytes"
  | date => Text.ofString "datetime.date"
  | dateTime => Text.ofString "datetime.datetime"
  | list _ => Text.ofString "list"
  | set _ => Text.ofString "set"
  | mapping _ => Text.ofString "dict"

/-- False for null, zeros, and whatever is empty. -/
def isTruthy : Value → Bool
  | null => false
  | bool b => b
  | int n => n ≠ 0
  | float x => !x.isZero
  | text t => !t.isEmpty
  | bytes octets => !octets.isEmpty
  | date => true
  | dateTime => true
  | list items => !items.isEmpty
  | set items => !items.isEmpty
  | mapping entries => !entries.isEmpty

/-- What coercion sees of the value. -/
def scalar : Value → Schema.Scalar
  | null => .null
  | bool b => .bool b
  | int n => .int n
  | float x => .float x
  | text t => .text t
  | bytes octets => .bytes octets
  | _ => .composite

/-- The value of a text key in the entries of a mapping: of several the last. -/
def entry? (key : Text) (entries : List (Value × Value)) : Option Value :=
  entries.foldl (fun found (k, v) => match k with
    | .text t => if t = key then some v else found
    | _ => found) none

end Value

/-! ### Scalars -/

/-- The text of a node as a scalar. A mapping with an entry for `=` stands for the value of that
entry. -/
def scalarText : (fuel : Nat) → Node → Except Fault Text
  | 0, _ => .error .construction
  | fuel + 1, node => match node with
    | .scalar _ t => .ok t
    | .sequence _ _ => .error .construction
    | .mapping _ entries =>
      match entries.find? fun (key, _) => match key with
        | .scalar tag _ => tag = commonTag "value"
        | _ => false with
      | some (_, value) => scalarText fuel value
      | none => .error .construction

/-- An integer in a base that is a power of two, with or without the base's mark. -/
def integerIn (base : Nat) (marks : List Char) (t : Text) : Except Fault Int :=
  let (negative, body) := takeSign (t.trim CodePoint.isBlank)
  let digits : Text := match body with
    | .char '0' :: .char m :: rest => if marks.contains m then rest else body
    | body => body
  let values : List Nat := digits.filterMap fun c => c.decimal?.or c.hexDigit?
  if digits.isEmpty ∨ values.length < digits.length ∨ values.any (fun d => base ≤ d) then
    .error (.notInteger base t)
  else
    let n : Int := digitsValue base values
    .ok (if negative then -n else n)

def integerInTen (t : Text) : Except Fault Int :=
  match parseInteger t with
  | .ok n => .ok n
  | .error .malformed => .error (.notInteger 10 t)
  | .error (.tooLong digits) => .error (.integerTooLong digits)

def sexagesimal (parts : List Int) : Int := parts.foldl (fun n part => n * 60 + part) 0

/-- An integer in one of the notations of YAML, low lines aside. -/
def integerOf (t : Text) : Except Fault Int := do
  let t := t.filter (· ≠ .char '_')
  let (negative, body) := takeSign t
  if body.isEmpty then .error .emptyNumber
  else
    let magnitude ← match body with
      | [.char '0'] => .ok 0
      | .char '0' :: .char 'b' :: rest => integerIn 2 ['b', 'B'] rest
      | .char '0' :: .char 'x' :: rest => integerIn 16 ['x', 'X'] rest
      | .char '0' :: _ => integerIn 8 ['o', 'O'] body
      | _ =>
        if body.contains (.char ':') then
          ((Text.splitOnMark (.char ':') body).mapM integerInTen).map sexagesimal
        else integerInTen body
    .ok (if negative then -magnitude else magnitude)

/-- The number with its sign changed, if so asked. -/
def negated (negative : Bool) (x : Binary64) : Binary64 :=
  match x with
  | .finite sign coefficient exponent h =>
    .finite (if negative then !sign else sign) coefficient exponent h
  | .infinite sign => .infinite (if negative then !sign else sign)
  | .nan => .nan

def doublePart (t : Text) : Except Fault Binary64 :=
  match parseDouble? t with
  | some x => .ok x
  | none => .error (.notDouble t)

/-- Parts of a sexagesimal double, the last one first, each of which counts for sixty times the one
before it; every step is rounded. -/
def sexagesimalDouble : (weight : Nat) → (sum : Binary64) → List Binary64 → Binary64
  | _, sum, [] => sum
  | weight, sum, part :: rest =>
    sexagesimalDouble (weight * 60) (sum.add (part.mul (.ofInt weight))) rest

/-- A double in one of the notations of YAML, low lines aside. -/
def doubleOf (t : Text) : Except Fault Binary64 := do
  let t := Text.lower (t.filter (· ≠ .char '_'))
  if t.isEmpty then .error .emptyNumber
  else
    let (negative, body) := takeSign t
    let magnitude ←
      if body = Text.ofString ".inf" then .ok (.infinite false)
      else if body = Text.ofString ".nan" then .ok .nan
      else if body.contains (.char ':') then do
        let parts ← (Text.splitOnMark (.char ':') body).mapM doublePart
        .ok (sexagesimalDouble 1 .zero parts.reverse)
      else doublePart body
    .ok (negated negative magnitude)

def trueWords : List Text := ["yes", "true", "on"].map Text.ofString
def falseWords : List Text := ["no", "false", "off"].map Text.ofString

def truthOf (t : Text) : Except Fault Bool :=
  let word := Text.lower t
  if trueWords.contains word then .ok true
  else if falseWords.contains word then .ok false
  else .error (.notTruth word)

def timestampOf (t : Text) : Except Fault Value :=
  match Plain.stamp? t with
  | none => .error .notTimestamp
  | some stamp =>
    let date := (Calendar.Date.make stamp.year stamp.month stamp.day).mapError Fault.calendar
    match stamp.time with
    | none => date.map fun _ => .date
    | some (hour, minute, second, offset) => do
      match offset with
      | some minutes => if minutes.natAbs ≥ 1440 then .error (.calendar (.offset minutes))
      | none => pure ()
      let _ ← date
      let _ ← (Calendar.Time.make hour minute second).mapError Fault.calendar
      .ok .dateTime

/-- The number of six bits that a character of base 64 stands for. -/
def sextet? : CodePoint → Option Nat
  | .char c =>
    if 'A' ≤ c ∧ c ≤ 'Z' then some (c.toNat - 65)
    else if 'a' ≤ c ∧ c ≤ 'z' then some (c.toNat - 71)
    else if '0' ≤ c ∧ c ≤ '9' then some (c.toNat + 4)
    else if c = '+' then some 62
    else if c = '/' then some 63
    else none
  | .surrogate _ => none

/-- Octets in base 64; `held` are the sextets of the group begun, `pads` the padding met after them.
What is no character of the alphabet is passed over, and enough padding ends the text. -/
def octetsFrom (held : List Nat) (pads : Nat) : Text → Except Fault (List UInt8)
  | [] => if held.isEmpty then .ok [] else .error .construction
  | c :: t =>
    if c = .char '=' then
      if held.length ≥ 2 ∧ held.length + pads + 1 ≥ 4 then .ok []
      else octetsFrom held (if held.length ≥ 2 then pads + 1 else pads) t
    else match sextet? c with
    | none => octetsFrom held pads t
    | some n =>
      match held with
      | [a] => (octetsFrom [a, n] 0 t).map (UInt8.ofNat (a * 4 + n / 16) :: ·)
      | [a, b] => (octetsFrom [a, b, n] 0 t).map (UInt8.ofNat (b % 16 * 16 + n / 4) :: ·)
      | [_, _, d] => (octetsFrom [] 0 t).map (UInt8.ofNat (d % 4 * 64 + n) :: ·)
      | _ => octetsFrom (held ++ [n]) 0 t

def octetsOf (t : Text) : Except Fault (List UInt8) :=
  if t.any (fun c => 0x80 ≤ c.toNat) then .error .construction else octetsFrom [] 0 t

/-! ### Nodes -/

inductive Collection where
  | sequence
  | mapping
  | set
  /-- A sequence of mappings with one entry each. -/
  | pairs
  deriving DecidableEq

def collection? (tag : Text) : Option Collection :=
  if tag = commonTag "seq" then some .sequence
  else if tag = commonTag "map" then some .mapping
  else if tag = commonTag "set" then some .set
  else if tag = commonTag "omap" ∨ tag = commonTag "pairs" then some .pairs
  else none

namespace Node

def tag : Node → Text
  | scalar tag _ => tag
  | sequence tag _ => tag
  | mapping tag _ => tag

def scalarValue (fuel : Nat) (node : Node) : Except Fault Value :=
  let t := scalarText fuel node
  if node.tag = commonTag "null" then t.map fun _ => .null
  else if node.tag = commonTag "bool" then (t.bind truthOf).map .bool
  else if node.tag = commonTag "int" then (t.bind integerOf).map .int
  else if node.tag = commonTag "float" then (t.bind doubleOf).map .float
  else if node.tag = commonTag "binary" then (t.bind octetsOf).map .bytes
  else if node.tag = commonTag "timestamp" then t.bind timestampOf
  else if node.tag = commonTag "str" then t.map .text
  else .error .construction

/-- The entries of a mapping, after those of the mappings merged into it. Of a merged sequence the
first mapping comes last. The key `=` is a text like any other. -/
def flatten : (fuel : Nat) → List (Node × Node) → Except Fault (List (Node × Node))
  | 0, _ => .error .construction
  | fuel + 1, entries => do
    let merged ← entries.mapM fun (key, value) => do
      if key.tag ≠ commonTag "merge" then pure []
      else match value with
      | .mapping _ inner => flatten fuel inner
      | .sequence _ items =>
        let parts ← items.mapM fun item => match item with
          | .mapping _ inner => flatten fuel inner
          | _ => .error .construction
        pure parts.reverse.flatten
      | .scalar _ _ => .error .construction
    let own := entries.filter fun (key, _) => key.tag ≠ commonTag "merge"
    .ok (merged.flatten ++ own.map fun (key, value) => match key with
      | .scalar tag t => if tag = commonTag "value" then (.scalar (commonTag "str") t, value)
        else (.scalar tag t, value)
      | key => (key, value))

/-- A node that is no collection must stand for a value; a collection is looked into later. -/
def checkScalar (fuel : Nat) (node : Node) : Except Fault Unit :=
  match collection? node.tag with
  | some _ => .ok ()
  | none => (node.scalarValue fuel).map fun _ => ()

/-- Entries of a mapping in order: a key must be no collection. -/
def checkEntries (fuel : Nat) : List (Node × Node) → Except Fault Unit
  | [] => .ok ()
  | (key, value) :: rest => do
    checkScalar fuel key
    if (collection? key.tag).isSome then .error .construction
    else
      checkScalar fuel value
      checkEntries fuel rest

/-- The only entries of mappings in order. -/
def onlyEntries (fuel : Nat) : List Node → Except Fault (List Node)
  | [] => .ok []
  | .mapping _ [(key, value)] :: rest => do
    checkScalar fuel key
    checkScalar fuel value
    let more ← onlyEntries fuel rest
    .ok (key :: value :: more)
  | _ :: _ => .error .construction

/-- The nodes in a collection, whose scalars must stand for values. -/
def members (fuel : Nat) (node : Node) : Except Fault (List Node) :=
  match collection? node.tag, node with
  | some .sequence, .sequence _ items => do
    let _ ← items.mapM (checkScalar fuel)
    .ok items
  | some .pairs, .sequence _ items => onlyEntries fuel items
  | some .mapping, .mapping _ entries => entriesMembers entries
  | some .set, .mapping _ entries => entriesMembers entries
  | _, _ => .error .construction
where
  entriesMembers (entries : List (Node × Node)) : Except Fault (List Node) := do
    let entries ← flatten fuel entries
    checkEntries fuel entries
    .ok (entries.flatMap fun (key, value) => [key, value])

/-- Every collection, level by level. -/
def checkLevels : (fuel : Nat) → List Node → Except Fault Unit
  | 0, _ => .error .construction
  | fuel + 1, level =>
    match level.filter fun node => (collection? node.tag).isSome with
    | [] => .ok ()
    | collections => do
      let next ← collections.mapM (members (fuel + 1))
      checkLevels fuel next.flatten

/-- The value of a node of which every part is known to have one. -/
def build : (fuel : Nat) → Node → Value
  | 0, _ => .null
  | fuel + 1, node =>
    let entries (entries : List (Node × Node)) : List (Value × Value) :=
      match flatten (fuel + 1) entries with
      | .ok entries => entries.map fun (key, value) => (build fuel key, build fuel value)
      | .error _ => []
    match collection? node.tag, node with
    | some .mapping, .mapping _ pairs => .mapping (entries pairs)
    | some .set, .mapping _ pairs => .set ((entries pairs).map (·.1))
    | some _, .sequence _ items => .list (items.map (build fuel))
    | _, node => match node.scalarValue (fuel + 1) with
      | .ok v => v
      | .error _ => .null

def toValue (fuel : Nat) (node : Node) : Except Fault Value := do
  checkScalar fuel node
  checkLevels fuel [node]
  .ok (build fuel node)

end Node

/-- The value of a document; null if there is none. -/
def load (t : Text) : Except Fault Value :=
  if ¬t.all isAdmitted then .error .unprintable
  else do
    let tokens := Tokens.ofText t
    match ← Node.ofTokens? tokens with
    | none => .ok .null
    | some node => node.toValue (tokens.tokens.length + 2)

end ControlPlaneMetrics.Yaml
