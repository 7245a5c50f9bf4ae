import ControlPlaneMetrics.Number.Reading
import ControlPlaneMetrics.Schema.Problem
import ControlPlaneMetrics.Text.Encoding
import ControlPlaneMetrics.Value

/-!
How a value becomes a text, an integer, a number or a truth value. Texts that spell
a number or a truth value count as one, octets count as the text that they encode,
and numbers of other kinds count if nothing is lost.
-/
namespace ControlPlaneMetrics

namespace Schema

/-- What coercion sees of a value. -/
inductive Scalar where
  | null
  | bool (b : Bool)
  | int (n : Int)
  | float (x : Binary64)
  | text (t : Text)
  | bytes (octets : List UInt8)
  /-- A list, an object, or another value that is no scalar. -/
  | composite

end Schema

/-- What coercion sees of the value. -/
def Value.scalar : Value → Schema.Scalar
  | null => .null
  | bool b => .bool b
  | int n => .int n
  | float x => .float x
  | text t => .text t
  | bytes octets => .bytes octets
  | list _ => .composite
  | object _ => .composite

namespace Schema

namespace Coercion

/-- The text without low lines, if it has some, none at an end and no two together. -/
def withoutLowLines? (t : Text) : Option Text :=
  let mark : CodePoint := '_'
  if t.head? = some mark ∨ t.getLast? = some mark ∨ ¬t.contains mark ∨
      Text.containsText [mark, mark] t then none
  else some (t.filter (· ≠ mark))

/-- An integer as it is written without any adornment. -/
def strictInteger (t : Text) : Except Flaw Int :=
  let (negative, digits) := match t with
    | .char '-' :: t => (true, t)
    | t => (false, t)
  if digits.isEmpty ∨ ¬digits.all CodePoint.isDigit then .error .integerUnreadable
  else if digits.head? = some (.char '0') ∧ digits.length ≠ 1 then .error .integerUnreadable
  else if digits.length > maxIntegerDigits then .error .integerTooLarge
  else
    let n : Int := digitsValue 10 (takeDigits digits).1
    .ok (if negative then -n else n)

/-- What is left of a digit run when the zeros that begin it, and low lines among them, are dropped;
the last one is kept if nothing but a point or the end follows. None if it begins otherwise. -/
def dropZeros? (t : Text) : Option Text :=
  match t with
  | .char '0' :: rest => go (.char '0') rest
  | .char c :: _ => if c = '-' ∨ ('1' ≤ c ∧ c ≤ '9') then some t else none
  | _ => none
where
  go (last : CodePoint) : Text → Option Text
    | [] => some [last]
    | c :: rest =>
      if c = .char '0' ∨ c = .char '_' then go c rest
      else if c.isDigit then some (c :: rest)
      else if c = .char '.' then some (last :: c :: rest)
      else none

/-- The whole part, if a point and at least one zero are all that follows it. -/
def dropPlaces (t : Text) : Text :=
  let point : CodePoint := '.'
  match t.dropWhile (· ≠ point) with
  | [] => t
  | _ :: places =>
    if places.isEmpty ∨ ¬places.all (· = .char '0') then t else t.takeWhile (· ≠ point)

/-- The integer's text without white space, a plus sign, needless zeros and low lines; none if
there was nothing to take away. -/
def plainInteger? (t : Text) : Option Text :=
  let trimmed := t.trim CodePoint.isWhiteSpace
  let unsigned := match trimmed with
    | .char '+' :: .char '-' :: _ => none
    | .char '+' :: rest => some rest
    | trimmed => some trimmed
  (unsigned.bind dropZeros?).bind fun digits =>
    let whole := dropPlaces digits
    match withoutLowLines? whole with
    | some plain => some plain
    | none => if whole.length = t.length then none else some whole

def readInteger (t : Text) : Except Flaw Int :=
  match strictInteger t with
  | .ok n => .ok n
  | .error .integerTooLarge => .error .integerTooLarge
  | .error _ =>
    match plainInteger? t with
    | none => .error .integerUnreadable
    | some plain => (strictInteger plain).mapError fun _ => .integerUnreadable

def readNumber (t : Text) : Except Flaw Binary64 :=
  let trimmed (t : Text) := readDouble? (t.trim CodePoint.isWhiteSpace)
  match trimmed t with
  | some x => .ok x
  | none =>
    match (withoutLowLines? t).bind trimmed with
    | some x => .ok x
    | none => .error .numberUnreadable

def trueWords : List Text := ["1", "on", "t", "true", "y", "yes"].map Text.ofString
def falseWords : List Text := ["0", "off", "f", "false", "n", "no"].map Text.ofString

/-- Lower case of ASCII letters. -/
def lowerAscii (t : Text) : Text :=
  t.map fun
    | .char c => .char c.toLower
    | c => c

def readTruth (t : Text) : Except Flaw Bool :=
  let word := lowerAscii t
  if trueWords.contains word then .ok true
  else if falseWords.contains word then .ok false
  else .error .truthUnreadable

def integerOfDouble (x : Binary64) : Except Flaw Int :=
  if x.isNan ∨ x.isInfinite then .error .notFinite
  else match x.toInt? with
    | none => .error .integerFractional
    | some n => if n.natAbs < 0x8000000000000000 then .ok n else .error .integerTooLarge

def truthOfInteger (n : Int) : Except Flaw Bool :=
  if n = 1 then .ok true else if n = 0 then .ok false else .error .truthUnreadable

/-- The text to be read, if the value is a text or octets; `unreadable` is the flaw of octets that
are not UTF-8. -/
def spelling (unreadable : Flaw) : Scalar → Option (Except Flaw Text)
  | .text t => some (if t.hasSurrogate then .error .textNotUnicode else .ok t)
  | .bytes octets => some (match Encoding.utf8? octets with
    | some t => .ok t
    | none => .error unreadable)
  | _ => none

def text : Scalar → Except Flaw Text
  | .text t => .ok t
  | .bytes octets => match Encoding.utf8? octets with
    | some t => .ok t
    | none => .error .textNotUnicode
  | _ => .error .notText

def integer (v : Scalar) : Except Flaw Int :=
  match spelling .integerUnreadable v with
  | some t => t.bind readInteger
  | none => match v with
    | .bool b => .ok (if b then 1 else 0)
    | .int n => .ok n
    | .float x => integerOfDouble x
    | _ => .error .notInteger

def number (v : Scalar) : Except Flaw Binary64 :=
  match spelling .numberUnreadable v with
  | some t => t.bind readNumber
  | none => match v with
    | .bool b => .ok (Binary64.ofInt (if b then 1 else 0))
    | .int n =>
      let x := Binary64.ofInt n
      if x.isInfinite then .error .notNumber else .ok x
    | .float x => .ok x
    | _ => .error .notNumber

def truth (v : Scalar) : Except Flaw Bool :=
  match spelling .truthUnreadable v with
  | some t => t.bind readTruth
  | none => match v with
    | .bool b => .ok b
    | .int n =>
      if -0x8000000000000000 ≤ n ∧ n < 0x8000000000000000 then truthOfInteger n
      else .error .notTruth
    | .float x => match integerOfDouble x with
      | .ok n => truthOfInteger n
      | .error _ => .error .notTruth
    | _ => .error .notTruth

/-- The value unless it is null. -/
def optional (coerce : Scalar → Except Flaw α) : Scalar → Except Flaw (Option α)
  | .null => .ok none
  | v => (coerce v).map some

def nonNegativeInteger (v : Scalar) : Except Flaw Int :=
  (integer v).bind fun n => if 0 ≤ n then .ok n else .error .belowZero

def nonNegativeNumber (v : Scalar) : Except Flaw Binary64 :=
  (number v).bind fun x => match x.compareInt? 0 with
    | some .lt => .error .belowZero
    | none => .error .belowZero
    | _ => .ok x

def positiveNumber (v : Scalar) : Except Flaw Binary64 :=
  (number v).bind fun x => match x.compareInt? 0 with
    | some .gt => .ok x
    | _ => .error .notPositive

end Coercion

end Schema

end ControlPlaneMetrics
