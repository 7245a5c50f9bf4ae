import ControlPlaneMetrics.Number.Reading
import ControlPlaneMetrics.Value

/-!
Patterns of log lines and messages. A pattern is plain text with conversions, each
introduced by a percent sign: an optional name in brackets, flags, a width, a
precision and a letter. It is filled with the arguments of a record in order, or, if
its conversions have names, with the fields of an object.
-/
namespace ControlPlaneMetrics.Log

inductive Argument where
  | value (v : Value)
  /-- All positional arguments of a record together. -/
  | row (items : List Value)

inductive Size where
  | given (n : Nat)
  /-- Taken from the arguments. -/
  | argument
  deriving DecidableEq

structure Flags where
  left : Bool
  plus : Bool
  space : Bool
  alternate : Bool
  zero : Bool
  deriving DecidableEq

structure Conversion where
  name : Option Text
  flags : Flags
  width : Option Size
  precision : Option Size
  /-- The letter and its position in the pattern; none if the pattern ends before it. -/
  letter : Option (CodePoint × Nat)
  deriving DecidableEq

inductive Piece where
  | plain (t : Text)
  | percent
  | conversion (c : Conversion)
  /-- A name whose closing bracket is missing. -/
  | openName
  deriving DecidableEq

inductive PatternFault where
  | fieldAbsent (name : Text)
  | needsFields
  | openName
  | incomplete
  | widthTooBig
  | precisionTooBig
  | widthArgumentTooLarge
  | precisionArgumentTooLarge
  | sizeNotInteger
  | argumentsExhausted
  | argumentsLeft
  | unknownLetter (letter : CodePoint) (position : Nat)
  | notReal (letter : CodePoint) (kind : Text)
  | notInteger (letter : CodePoint) (kind : Text)
  | notNumber (kind : Text)
  | notCharacter
  | characterRange
  | nanToInteger
  | infinityToInteger
  | integerTooLong
  | integerTooLarge
  deriving DecidableEq

def PatternFault.message : PatternFault → Text
  | fieldAbsent name => name.quoted
  | needsFields => Text.ofString "format requires a mapping"
  | openName => Text.ofString "incomplete format key"
  | incomplete => Text.ofString "incomplete format"
  | widthTooBig => Text.ofString "width too big"
  | precisionTooBig => Text.ofString "precision too big"
  | widthArgumentTooLarge => Text.ofString "Python int too large to convert to C ssize_t"
  | precisionArgumentTooLarge => Text.ofString "Python int too large to convert to C int"
  | sizeNotInteger => Text.ofString "* wants int"
  | argumentsExhausted => Text.ofString "not enough arguments for format string"
  | argumentsLeft => Text.ofString "not all arguments converted during string formatting"
  | unknownLetter letter position =>
    let shown : CodePoint := if 31 ≤ letter.toNat ∧ letter.toNat < 126 then letter else '?'
    Text.ofString "unsupported format character '" ++ [shown] ++ Text.ofString "' (0x" ++
      Text.hex 1 letter.toNat ++ Text.ofString ") at index " ++ Text.ofNat position
  | notReal letter kind =>
    .char '%' :: letter :: Text.ofString " format: a real number is required, not " ++ kind
  | notInteger letter kind =>
    .char '%' :: letter :: Text.ofString " format: an integer is required, not " ++ kind
  | notNumber kind => Text.ofString "must be real number, not " ++ kind
  | notCharacter => Text.ofString "%c requires int or char"
  | characterRange => Text.ofString "%c arg not in range(0x110000)"
  | nanToInteger => Text.ofString "cannot convert float NaN to integer"
  | infinityToInteger => Text.ofString "cannot convert float infinity to integer"
  | integerTooLong =>
    Text.ofString ("Exceeds the limit (4300 digits) for integer string conversion; " ++
      "use sys.set_int_max_str_digits() to increase the limit")
  | integerTooLarge => Text.ofString "int too large to convert to float"

namespace Argument

def kindName : Argument → Text
  | value v => v.kindName
  | row _ => Text.ofString "tuple"

def display : Argument → Text
  | value v => v.display
  | row items => Value.inspectedArguments items

def inspected : Argument → Text
  | value v => v.inspected
  | row items => Value.inspectedArguments items

def integer? : Argument → Option Int
  | value v => v.integer?
  | row _ => none

end Argument

/-! ### Reading a pattern -/

def isFlag (c : CodePoint) : Bool :=
  c = .char '-' || c = .char '+' || c = .char ' ' || c = .char '#' || c = .char '0'

def Flags.ofText (t : Text) : Flags where
  left := t.contains (.char '-')
  plus := t.contains (.char '+')
  space := t.contains (.char ' ')
  alternate := t.contains (.char '#')
  zero := t.contains (.char '0')

/-- The text up to the bracket that closes the first of `opened` brackets, and what follows it. -/
def takeName? : (opened : Nat) → Text → Option (Text × Text)
  | _, [] => none
  | opened, c :: t =>
    if c = .char ')' then
      if opened = 0 then some ([], t)
      else (takeName? (opened - 1) t).map fun (name, rest) => (c :: name, rest)
    else
      (takeName? (if c = .char '(' then opened + 1 else opened) t).map fun (name, rest) =>
        (c :: name, rest)

def decimalValue (t : Text) : Nat := (t.filterMap CodePoint.digit?).foldl (fun n d => n * 10 + d) 0

/-- A star or a run of digits at the front, and the rest. -/
def takeSize (t : Text) : Option Size × Text :=
  match t with
  | .char '*' :: rest => (some .argument, rest)
  | t =>
    match t.takeWhile CodePoint.isDigit with
    | [] => (none, t)
    | digits => (some (.given (decimalValue digits)), t.dropWhile CodePoint.isDigit)

/-- As `takeSize` after a point, where nothing stands for zero. -/
def takePrecision : Text → Option Size × Text
  | .char '.' :: t => match takeSize t with
    | (none, rest) => (some (.given 0), rest)
    | found => found
  | t => (none, t)

/-- One letter that may stand before the letter of a conversion and says nothing. -/
def dropLength : Text → Text
  | .char 'h' :: t => t
  | .char 'l' :: t => t
  | .char 'L' :: t => t
  | t => t

/-- The conversion after its name, if it has one, and the rest of the pattern; `length` is the
length of the whole pattern. -/
def takeConversion (length : Nat) (name : Option Text) (t : Text) : Conversion × Text :=
  let flags := Flags.ofText (t.takeWhile isFlag)
  let (width, t) := takeSize (t.dropWhile isFlag)
  let (precision, t) := takePrecision t
  match dropLength t with
  | [] => (⟨name, flags, width, precision, none⟩, [])
  | c :: rest =>
    (⟨name, flags, width, precision, some (c, length - (rest.length + 1))⟩, rest)

/-- The pieces of a pattern; `length` is its length. -/
def piecesWithin (length : Nat) : (fuel : Nat) → Text → List Piece
  | 0, _ => []
  | _, [] => []
  | fuel + 1, .char '%' :: .char '%' :: t => .percent :: piecesWithin length fuel t
  | fuel + 1, .char '%' :: .char '(' :: t =>
    match takeName? 0 t with
    | none => [.openName]
    | some (name, rest) =>
      let (c, rest) := takeConversion length (some name) rest
      .conversion c :: piecesWithin length fuel rest
  | fuel + 1, .char '%' :: t =>
    let (c, rest) := takeConversion length none t
    .conversion c :: piecesWithin length fuel rest
  | fuel + 1, c :: t =>
    let mark : CodePoint := '%'
    .plain (c :: t.takeWhile (· ≠ mark)) :: piecesWithin length fuel (t.dropWhile (· ≠ mark))

def pieces (pattern : Text) : List Piece := piecesWithin pattern.length (pattern.length + 1) pattern

/-! ### Filling a pattern -/

/-- A converted argument before it is padded. -/
structure Figure where
  /-- Whether zeros may pad it. -/
  numeric : Bool
  sign : Text
  marker : Text
  body : Text

/-- The figure padded to a width: at its right end, between marker and body with zeros, or at its
left end. -/
def Figure.pad (f : Figure) (left zero : Bool) (width : Nat) : Text :=
  let whole := f.sign ++ f.marker ++ f.body
  let missing := width - whole.length
  if left then whole ++ List.replicate missing (.char ' ')
  else if zero ∧ f.numeric then f.sign ++ f.marker ++ List.replicate missing (.char '0') ++ f.body
  else List.replicate missing (.char ' ') ++ whole

def signText (flags : Flags) (negative : Bool) : Text :=
  if negative then [.char '-']
  else if flags.plus then [.char '+']
  else if flags.space then [.char ' ']
  else []

/-- The integer that a whole-number conversion shows: of a number its whole part. -/
def wholePart (letter : CodePoint) (argument : Argument) : Except PatternFault Int :=
  match argument with
  | .value (.float x) =>
    match x with
    | .nan => .error .nanToInteger
    | .infinite _ => .error .infinityToInteger
    | .finite negative coefficient exponent _ =>
      let (num, den) := Binary64.scaleTwo coefficient 1 exponent
      let magnitude : Int := (num / den : Nat)
      .ok (if negative then -magnitude else magnitude)
  | argument => match argument.integer? with
    | some n => .ok n
    | none => .error (.notReal letter argument.kindName)

def upperCase (t : Text) : Text :=
  t.map fun
    | .char c => .char c.toUpper
    | c => c

def digitsIn (base n : Nat) : Text := (Nat.toDigits base n).map CodePoint.char

def padDigits (precision : Option Nat) (digits : Text) : Text :=
  List.replicate (precision.getD 0 - digits.length) (.char '0') ++ digits

def decimalFigure (flags : Flags) (precision : Option Nat) (n : Int) :
    Except PatternFault Figure :=
  let digits := Text.ofNat n.natAbs
  if digits.length > maxIntegerDigits then .error .integerTooLong
  else .ok ⟨true, signText flags (n < 0), [], padDigits precision digits⟩

/-- An integer in base eight or sixteen, after the base's marker if the alternate form is asked
for. -/
def baseFigure (letter : CodePoint) (flags : Flags) (precision : Option Nat) (n : Int) : Figure :=
  let digits := if letter = .char 'o' then digitsIn 8 n.natAbs else digitsIn 16 n.natAbs
  let digits := if letter = .char 'X' then upperCase digits else digits
  ⟨true, signText flags (n < 0), if flags.alternate then [.char '0', letter] else [],
    padDigits precision digits⟩

def double (argument : Argument) : Except PatternFault Binary64 :=
  match argument with
  | .value (.float x) => .ok x
  | argument => match argument.integer? with
    | none => .error (.notNumber argument.kindName)
    | some n =>
      let x := Binary64.ofInt n
      if x.isInfinite then .error .integerTooLarge else .ok x

def doubleFigure (letter : CodePoint) (flags : Flags) (precision : Option Nat) (x : Binary64) :
    Figure :=
  let places := precision.getD 6
  let style := upperCase [letter]
  let body := match x with
    | .nan => Text.ofString "nan"
    | .infinite _ => Text.ofString "inf"
    | .finite _ coefficient exponent _ =>
      let (num, den) := Binary64.scaleTwo coefficient 1 exponent
      if style = [.char 'F'] then Binary64.fixed num den places flags.alternate
      else if style = [.char 'E'] then Binary64.scientific num den places flags.alternate
      else Binary64.general num den places flags.alternate
  ⟨true, signText flags x.isNegative, [], if style = [letter] then upperCase body else body⟩

def character (argument : Argument) : Except PatternFault CodePoint :=
  match argument with
  | .value (.text [c]) => .ok c
  | argument => match argument.integer? with
    | none => .error .notCharacter
    | some n =>
      if n < 0 then .error .characterRange
      else match CodePoint.ofNat? n.toNat with
        | some c => .ok c
        | none => .error .characterRange

/-- The text before padding that a letter makes of an argument. -/
def figure (letter : CodePoint) (position : Nat) (flags : Flags) (precision : Option Nat)
    (argument : Argument) : Except PatternFault Figure :=
  let text (t : Text) : Figure := ⟨false, [], [], match precision with
    | some n => t.take n
    | none => t⟩
  match letter with
  | .char 's' => .ok (text argument.display)
  | .char 'r' => .ok (text argument.inspected)
  | .char 'a' => .ok (text argument.inspected.inAscii)
  | .char 'c' => (character argument).map fun c => ⟨false, [], [], [c]⟩
  | letter =>
    if (['d', 'i', 'u'].map CodePoint.char).contains letter then
      (wholePart letter argument).bind (decimalFigure flags precision)
    else if (['o', 'x', 'X'].map CodePoint.char).contains letter then
      match argument.integer? with
      | some n => .ok (baseFigure letter flags precision n)
      | none => .error (.notInteger letter argument.kindName)
    else if (['e', 'E', 'f', 'F', 'g', 'G'].map CodePoint.char).contains letter then
      (double argument).map (doubleFigure letter flags precision)
    else .error (.unknownLetter letter position)

structure Supply where
  /-- The fields by name, if conversions may have names. -/
  fields? : Option (Text → Option Argument)
  /-- The arguments still to be used, in order. -/
  arguments : List Argument

def Supply.next (s : Supply) : Except PatternFault (Argument × Supply) :=
  match s.arguments with
  | [] => .error .argumentsExhausted
  | a :: rest => .ok (a, { s with arguments := rest })

/-- The supply whose next argument is the field of that name, and nothing else. -/
def Supply.focus (s : Supply) (name : Text) : Except PatternFault Supply :=
  match s.fields? with
  | none => .error .needsFields
  | some field? => match field? name with
    | some a => .ok { s with arguments := [a] }
    | none => .error (.fieldAbsent name)

/-- The integer that a size stands for, from the arguments if it is a star; `tooBig` if it is
written and above the limit, `tooLarge` if it is an argument beyond it. -/
def Supply.size (s : Supply) (limit : Int) (tooBig tooLarge : PatternFault) :
    Option Size → Except PatternFault (Option Int × Supply)
  | none => .ok (none, s)
  | some (.given n) => if n > limit then .error tooBig else .ok (some n, s)
  | some .argument => do
    let (a, s) ← s.next
    match a.integer? with
    | some n => if n > limit ∨ n < -limit - 1 then .error tooLarge else .ok (some n, s)
    | none => .error .sizeNotInteger

def maxWidth : Int := 0x7FFFFFFFFFFFFFFF
def maxPrecision : Int := 0x7FFFFFFF

/-- One conversion's text, and the supply after it. A negative width pads at the right, and a
negative precision counts as zero. -/
def convert (s : Supply) (c : Conversion) : Except PatternFault (Text × Supply) := do
  let s ← match c.name with
    | none => .ok s
    | some name => s.focus name
  let (width, s) ← s.size maxWidth .widthTooBig .widthArgumentTooLarge c.width
  let (precision, s) ← s.size maxPrecision .precisionTooBig .precisionArgumentTooLarge c.precision
  match c.letter with
  | none => .error .incomplete
  | some (letter, position) =>
    let (a, s) ← s.next
    let f ← figure letter position c.flags (precision.map Int.toNat) a
    let left := c.flags.left ∨ width.getD 0 < 0
    .ok (f.pad left c.flags.zero (width.getD 0).natAbs, s)

def fillPieces (s : Supply) : List Piece → Except PatternFault (Text × Supply)
  | [] => .ok ([], s)
  | .plain t :: rest => do
    let (filled, s) ← fillPieces s rest
    .ok (t ++ filled, s)
  | .percent :: rest => do
    let (filled, s) ← fillPieces s rest
    .ok (.char '%' :: filled, s)
  | .conversion c :: rest => do
    let (t, s) ← convert s c
    let (filled, s) ← fillPieces s rest
    .ok (t ++ filled, s)
  | .openName :: _ => .error (if s.fields?.isSome then .openName else .needsFields)

/-- A pattern filled with arguments, all of which must be used. -/
def fillInOrder (pattern : Text) (arguments : List Value) : Except PatternFault Text := do
  let (filled, s) ← fillPieces ⟨none, arguments.map .value⟩ (pieces pattern)
  if s.arguments.isEmpty then .ok filled else .error .argumentsLeft

/-- A pattern filled with fields; a conversion without a name gets `whole`. -/
def fillByName (pattern : Text) (whole : Argument) (field? : Text → Option Argument) :
    Except PatternFault Text :=
  (fillPieces ⟨some field?, [whole]⟩ (pieces pattern)).map (·.1)

end ControlPlaneMetrics.Log
