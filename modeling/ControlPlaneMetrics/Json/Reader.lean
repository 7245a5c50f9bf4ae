import ControlPlaneMetrics.Number.Reading
import ControlPlaneMetrics.Value

/-!
A reader for JSON text. It accepts the three non-finite numbers by name, keeps the
last of several members of one name in the place of the first, joins the escapes of
a surrogate pair and keeps a lone half. A fault holds the text from where it lies.
-/
namespace ControlPlaneMetrics.Json

inductive Flaw where
  | byteOrderMark
  | expectedValue
  | expectedName
  | expectedColon
  | expectedComma
  | unterminated
  | controlCharacter
  | badEscape
  | badUnicodeEscape
  | extraText
  deriving DecidableEq

def Flaw.message : Flaw → Text
  | byteOrderMark => Text.ofString "Unexpected UTF-8 BOM (decode using utf-8-sig)"
  | expectedValue => Text.ofString "Expecting value"
  | expectedName => Text.ofString "Expecting property name enclosed in double quotes"
  | expectedColon => Text.ofString "Expecting ':' delimiter"
  | expectedComma => Text.ofString "Expecting ',' delimiter"
  | unterminated => Text.ofString "Unterminated string starting at"
  | controlCharacter => Text.ofString "Invalid control character at"
  | badEscape => Text.ofString "Invalid \\escape"
  | badUnicodeEscape => Text.ofString "Invalid \\uXXXX escape"
  | extraText => Text.ofString "Extra data"

inductive Container where
  | array
  | object
  deriving DecidableEq

inductive Fault where
  /-- `rest` is the text from the flaw to the end. -/
  | flawed (flaw : Flaw) (rest : Text)
  | integerTooLong (digits : Nat)
  | nestedTooDeep (container : Container)
  deriving DecidableEq

/-- How many containers are assumed to be read inside each other. Where a reader gives up depends on
how deep the calls stand that lead to it; five hundred are read from wherever it is called. -/
def assumedDepth : Nat := 980

def isSpace (c : CodePoint) : Bool :=
  c = .char ' ' || c = .char '\t' || c = .char '\n' || c = .char '\r'

def skipSpace (t : Text) : Text := t.dropWhile isSpace

/-- What a backslash and this letter stand for, except for the numeric escape. -/
def simpleEscape? : Char → Option Char
  | '"' => some '"'
  | '\\' => some '\\'
  | '/' => some '/'
  | 'b' => some '\x08'
  | 'f' => some '\x0c'
  | 'n' => some '\n'
  | 'r' => some '\r'
  | 't' => some '\t'
  | _ => none

/-- The number of four hexadecimal digits at the front, and the rest. -/
def hexUnit? : Text → Option (Nat × Text)
  | a :: b :: c :: d :: rest =>
    match a.hexDigit?, b.hexDigit?, c.hexDigit?, d.hexDigit? with
    | some a, some b, some c, some d => some (((a * 16 + b) * 16 + c) * 16 + d, rest)
    | _, _, _, _ => none
  | _ => none

/-- As `hexUnit?`, if something follows the four digits. -/
def innerHexUnit? (t : Text) : Option (Nat × Text) := 
  if (t.drop 4).isEmpty then none else hexUnit? t

/-- The code point of a numeric escape whose digits begin the text. Four digits must be followed by
something, and a second escape counts for a pair only if it is followed by something too. -/
def unicodeEscape (t : Text) : Except Fault (CodePoint × Text) :=
  match innerHexUnit? t with
  | none => .error (.flawed .badUnicodeEscape (.char 'u' :: t))
  | some (n, rest) =>
    let first := CodePoint.ofNat n
    match rest with
    | .char '\\' :: .char 'u' :: next =>
      if first.isHighSurrogate ∧ ¬(next.drop 4).isEmpty then
        match hexUnit? next with
        | none => .error (.flawed .badUnicodeEscape (.char 'u' :: next))
        | some (m, after) =>
          let second := CodePoint.ofNat m
          if second.isLowSurrogate then .ok (CodePoint.join first second, after)
          else .ok (first, rest)
      else .ok (first, rest)
    | _ => .ok (first, rest)

/-- The content of a string and what follows its closing quote; `opening` is the text from the
opening quote. -/
def stringBody (opening : Text) : (fuel : Nat) → (done t : Text) → Except Fault (Text × Text)
  | 0, _, _ => .error (.flawed .unterminated opening)
  | fuel + 1, done, t =>
    match t with
    | [] => .error (.flawed .unterminated opening)
    | .char '"' :: rest => .ok (done.reverse, rest)
    | .char '\\' :: .char 'u' :: rest =>
      match unicodeEscape rest with
      | .error fault => .error fault
      | .ok (c, rest) => stringBody opening fuel (c :: done) rest
    | .char '\\' :: .char letter :: rest =>
      match simpleEscape? letter with
      | some c => stringBody opening fuel (.char c :: done) rest
      | none => .error (.flawed .badEscape t)
    | .char '\\' :: [] => .error (.flawed .unterminated opening)
    | .char '\\' :: .surrogate _ :: _ => .error (.flawed .badEscape t)
    | c :: rest =>
      if c.toNat < 0x20 then .error (.flawed .controlCharacter t)
      else stringBody opening fuel (c :: done) rest

def string (t : Text) : Except Fault (Text × Text) :=
  stringBody (.char '"' :: t) (t.length + 1) [] t

/-- An exponent at the front: its sign, its digits, and the rest. -/
def exponent? : Text → Option (Int × Text)
  | .char e :: t =>
    if e = 'e' ∨ e = 'E' then
      let (below, t) := takeSign t
      match takeDigits t with
      | ([], _) => none
      | (digits, rest) =>
        let power : Int := digitsValue 10 digits
        some (if below then -power else power, rest)
    else none
  | _ => none

/-- A point with at least one digit after it, and the rest. -/
def places? : Text → Option (List Nat × Text)
  | .char '.' :: t =>
    match takeDigits t with
    | ([], _) => none
    | found => some found
  | _ => none

/-- A number without its sign: a whole part that does not begin with a needless zero, then
optionally places and an exponent, which make it a double. -/
def magnitude (start : Text) (negative : Bool) (t : Text) : Except Fault (Value × Text) :=
  let (whole, rest) := match t with
    | .char '0' :: rest => ([0], rest)
    | t => takeDigits t
  if whole.isEmpty then .error (.flawed .expectedValue start)
  else
    match places? rest, exponent? ((places? rest).elim rest (·.2)) with
    | none, none =>
      if whole.length > maxIntegerDigits then .error (.integerTooLong whole.length)
      else
        let n : Int := digitsValue 10 whole
        .ok (.int (if negative then -n else n), rest)
    | places, power =>
      let digits := places.elim [] (·.1)
      let rest := places.elim rest (·.2)
      let (power, rest) := power.getD (0, rest)
      .ok (.float (Binary64.ofDecimal negative (digitsValue 10 (whole ++ digits))
        (power - digits.length)), rest)

/-- A value that is no string, array or object. -/
def scalar (t : Text) : Except Fault (Value × Text) :=
  match Text.dropStart? (Text.ofString "null") t with
  | some rest => .ok (.null, rest)
  | none =>
  match Text.dropStart? (Text.ofString "true") t with
  | some rest => .ok (.bool true, rest)
  | none =>
  match Text.dropStart? (Text.ofString "false") t with
  | some rest => .ok (.bool false, rest)
  | none =>
  match Text.dropStart? (Text.ofString "NaN") t with
  | some rest => .ok (.float .nan, rest)
  | none =>
  match Text.dropStart? (Text.ofString "Infinity") t with
  | some rest => .ok (.float (.infinite false), rest)
  | none =>
  match Text.dropStart? (Text.ofString "-Infinity") t with
  | some rest => .ok (.float (.infinite true), rest)
  | none =>
  match t with
  | .char '-' :: rest => magnitude t true rest
  | t => magnitude t false t

mutual

/-- The value at the front of the text, and the rest. At most `depth` containers may be open in it.
`fuel` is twice the length of the text or more. -/
def value : (fuel depth : Nat) → Text → Except Fault (Value × Text)
  | 0, _, t => .error (.flawed .expectedValue t)
  | fuel + 1, depth, t =>
    match t with
    | .char '"' :: rest =>
      match string rest with
      | .error fault => .error fault
      | .ok (s, rest) => .ok (.text s, rest)
    | .char '[' :: rest =>
      match depth with
      | 0 => .error (.nestedTooDeep .array)
      | depth + 1 =>
        match skipSpace rest with
        | .char ']' :: rest => .ok (.list [], rest)
        | rest => elements fuel depth [] rest
    | .char '\x7b' :: rest =>
      match depth with
      | 0 => .error (.nestedTooDeep .object)
      | depth + 1 =>
        match skipSpace rest with
        | .char '\x7d' :: rest => .ok (.object [], rest)
        | rest => members fuel depth [] rest
    | t => scalar t

/-- The remaining elements of an array, of which `done` have been read, last first. -/
def elements : (fuel depth : Nat) → (done : List Value) → Text → Except Fault (Value × Text)
  | 0, _, _, t => .error (.flawed .expectedValue t)
  | fuel + 1, depth, done, t =>
    match value fuel depth t with
    | .error fault => .error fault
    | .ok (v, rest) =>
      match skipSpace rest with
      | .char ']' :: rest => .ok (.list (v :: done).reverse, rest)
      | .char ',' :: rest => elements fuel depth (v :: done) (skipSpace rest)
      | rest => .error (.flawed .expectedComma rest)

/-- The remaining members of an object, after those in `done`. -/
def members : (fuel depth : Nat) → (done : List (Text × Value)) → Text →
    Except Fault (Value × Text)
  | 0, _, _, t => .error (.flawed .expectedValue t)
  | fuel + 1, depth, done, t =>
    match t with
    | .char '"' :: rest =>
      match string rest with
      | .error fault => .error fault
      | .ok (name, rest) =>
        match skipSpace rest with
        | .char ':' :: rest =>
          match value fuel depth (skipSpace rest) with
          | .error fault => .error fault
          | .ok (v, rest) =>
            match skipSpace rest with
            | .char '\x7d' :: rest => .ok (.object (write name v done), rest)
            | .char ',' :: rest => members fuel depth (write name v done) (skipSpace rest)
            | rest => .error (.flawed .expectedComma rest)
        | rest => .error (.flawed .expectedColon rest)
    | t => .error (.flawed .expectedName t)

end

def parseWithin (depth : Nat) (t : Text) : Except Fault Value :=
  match value (2 * t.length + 2) depth (skipSpace t) with
  | .error fault => .error fault
  | .ok (v, rest) =>
    match skipSpace rest with
    | [] => .ok v
    | rest => .error (.flawed .extraText rest)

/-- The value of a text, which may not begin with a byte order mark. -/
def parse (t : Text) : Except Fault Value :=
  match t with
  | .char '\uFEFF' :: _ => .error (.flawed .byteOrderMark t)
  | t => parseWithin assumedDepth t

/-- Line and column of the end of the text before a place, both counted from one. -/
def lineAndColumn (before : Text) : Nat × Nat :=
  (before.count (.char '\n') + 1, (before.reverse.takeWhile (· ≠ .char '\n')).length + 1)

/-- What a reader of `source` is told. -/
def Fault.message (source : Text) : Fault → Text
  | flawed flaw rest =>
    let offset := source.length - rest.length
    let (line, column) := lineAndColumn (source.take offset)
    flaw.message ++ Text.ofString ": line " ++ Text.ofNat line ++ Text.ofString " column " ++
      Text.ofNat column ++ Text.ofString " (char " ++ Text.ofNat offset ++ Text.ofString ")"
  | integerTooLong digits =>
    Text.ofString "Exceeds the limit (4300 digits) for integer string conversion: value has " ++
      Text.ofNat digits ++
      Text.ofString " digits; use sys.set_int_max_str_digits() to increase the limit"
  | nestedTooDeep .array =>
    Text.ofString
      "maximum recursion depth exceeded while decoding a JSON array from a unicode string"
  | nestedTooDeep .object =>
    Text.ofString
      "maximum recursion depth exceeded while decoding a JSON object from a unicode string"

end ControlPlaneMetrics.Json
