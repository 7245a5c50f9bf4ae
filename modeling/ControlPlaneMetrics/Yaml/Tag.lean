import ControlPlaneMetrics.Yaml.Cursor

/-!
Tags say what a node stands for. A plain scalar without a tag gets the one that its
text suggests: a truth value, an integer, a double, a time, nothing, or a text.
-/
namespace ControlPlaneMetrics.Yaml

def commonTag (name : String) : Text := Text.ofString "tag:yaml.org,2002:" ++ Text.ofString name

namespace Plain

def bools : List Text :=
  ["yes", "Yes", "YES", "no", "No", "NO", "true", "True", "TRUE", "false", "False", "FALSE",
    "on", "On", "ON", "off", "Off", "OFF"].map Text.ofString

def nulls : List Text := ["", "~", "null", "Null", "NULL"].map Text.ofString

def isDigitOrLowLine (c : CodePoint) : Bool := c.isDigit || c = .char '_'

/-- The text after a sign, if it has one. -/
def unsigned (t : Text) : Text := (takeSign t).2

/-- Whether the text is one code point of the first class and then any number of the second. -/
def isRun (first others : CodePoint → Bool) : Text → Bool
  | [] => false
  | c :: t => first c && t.all others

/-- One digit, or two of which the first is below six. -/
def isSixtieth : Text → Bool
  | [c] => c.isDigit
  | [c, d] => isOneOf "012345" c && d.isDigit
  | _ => false

/-- Two or more numbers joined by colons, all but the first below sixty. -/
def isSexagesimal (first : CodePoint → Bool) (t : Text) : Bool :=
  match Text.splitOnMark (.char ':') t with
  | whole :: part :: parts =>
    isRun first isDigitOrLowLine whole && (part :: parts).all isSixtieth
  | _ => false

def isInteger (t : Text) : Bool :=
  let t := unsigned t
  let leading (c : CodePoint) : Bool := isOneOf "123456789" c
  match t with
  | .char '0' :: .char 'b' :: rest => !rest.isEmpty && rest.all (isOneOf "01_")
  | .char '0' :: .char 'x' :: rest =>
    !rest.isEmpty && rest.all fun c => c.hexDigit?.isSome || c = .char '_'
  | .char '0' :: rest => rest.all (isOneOf "01234567_")
  | t => isRun leading isDigitOrLowLine t || isSexagesimal leading t

/-- Nothing, or an exponent with a sign. -/
def isExponentOrEmpty : Text → Bool
  | [] => true
  | e :: sign :: digits =>
    isOneOf "eE" e && isOneOf "+-" sign && !digits.isEmpty && digits.all CodePoint.isDigit
  | _ => false

/-- Whether the text after any digits and low lines is an exponent or nothing. -/
def isPlaces (t : Text) : Bool := isExponentOrEmpty (t.dropWhile isDigitOrLowLine)

def isDouble (t : Text) : Bool :=
  let u := unsigned t
  let isPoint (c : CodePoint) : Bool := c = .char '.'
  let whole := u.takeWhile fun c => !isPoint c
  let after := u.dropWhile fun c => !isPoint c
  match t, after with
  | _, [] => false
  | .char '.' :: c :: rest, _ =>
    (c.isDigit && isPlaces rest) ||
      ((["inf", "Inf", "INF", "nan", "NaN", "NAN"].map Text.ofString).contains (c :: rest))
  | _, _ :: places =>
    (isRun CodePoint.isDigit isDigitOrLowLine whole && isPlaces places) ||
      (isSexagesimal CodePoint.isDigit whole && places.all isDigitOrLowLine) ||
      (whole.isEmpty && (["inf", "Inf", "INF"].map Text.ofString).contains places)

/-- The parts of a time, as they are written. -/
structure Stamp where
  year : Nat
  month : Nat
  day : Nat
  /-- Hour, minute and second, and the offset from universal time in minutes. -/
  time : Option (Nat × Nat × Nat × Option Int)

/-- A number of `least` to `most` digits, and the rest. -/
def digits? (least most : Nat) (t : Text) : Option (Nat × Text) :=
  let digits := (t.takeWhile CodePoint.isDigit).take most
  if digits.length < least then none
  else some (digitsValue 10 (digits.filterMap CodePoint.digit?), t.drop digits.length)

def mark? (mark : Char) : Text → Option Text
  | c :: t => if c = .char mark then some t else none
  | [] => none

/-- The offset at the end of a time: none, universal time, or a sign with hours and minutes. -/
def offset? (t : Text) : Option (Option Int) :=
  match t.dropWhile (isOneOf " \t") with
  | [] => if t.isEmpty then some none else none
  | [.char 'Z'] => some (some 0)
  | sign :: rest => do
    if ¬isOneOf "+-" sign then none
    else
      let (hours, rest) ← digits? 1 2 rest
      let (minutes, rest) ← match rest with
        | [] => some (0, [])
        | rest => (mark? ':' rest).bind (digits? 2 2)
      let total : Int := (hours * 60 + minutes : Nat)
      if rest.isEmpty then some (some (if sign = .char '-' then -total else total)) else none

/-- The time of day after a date. -/
def timeOfDay? (t : Text) : Option (Nat × Nat × Nat × Option Int) := do
  let t ← match t with
    | .char 'T' :: t => some t
    | .char 't' :: t => some t
    | c :: t => if isOneOf " \t" c then some (t.dropWhile (isOneOf " \t")) else none
    | [] => none
  let (hour, t) ← digits? 1 2 t
  let (minute, t) ← (mark? ':' t).bind (digits? 2 2)
  let (second, t) ← (mark? ':' t).bind (digits? 2 2)
  let t := match t with
    | .char '.' :: t => t.dropWhile CodePoint.isDigit
    | t => t
  let offset ← offset? t
  some (hour, minute, second, offset)

def stamp? (t : Text) : Option Stamp := do
  let (year, t) ← digits? 4 4 t
  let (month, t) ← (mark? '-' t).bind (digits? 1 2)
  let (day, t) ← (mark? '-' t).bind (digits? 1 2)
  if t.isEmpty then some ⟨year, month, day, none⟩
  else (timeOfDay? t).map fun time => ⟨year, month, day, some time⟩

/-- A time; a date alone needs two digits for month and day. -/
def isTimestamp (t : Text) : Bool :=
  match stamp? t with
  | none => false
  | some stamp => stamp.time.isSome || t.length = 10

end Plain

def tagOfPlain (t : Text) : Text :=
  if Plain.bools.contains t then commonTag "bool"
  else if Plain.isDouble t then commonTag "float"
  else if Plain.isInteger t then commonTag "int"
  else if t = Text.ofString "<<" then commonTag "merge"
  else if Plain.nulls.contains t then commonTag "null"
  else if Plain.isTimestamp t then commonTag "timestamp"
  else if t = Text.ofString "=" then commonTag "value"
  else if ["!", "&", "*"].map Text.ofString |>.contains t then commonTag "yaml"
  else commonTag "str"

end ControlPlaneMetrics.Yaml
