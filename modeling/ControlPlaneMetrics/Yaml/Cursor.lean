import ControlPlaneMetrics.Calendar
import ControlPlaneMetrics.Number.Reading
import ControlPlaneMetrics.Text.Quoted

/-!
A place in a YAML text: what follows it, and its line and column. A document that
cannot be read is refused for a cause that belongs to one of five stages, or for a
scalar that does not spell what it should.
-/
namespace ControlPlaneMetrics.Yaml

inductive Fault where
  /-- A code point that may not stand in a document. -/
  | unprintable
  /-- A part that is no token. -/
  | token
  /-- A token where the grammar has another. -/
  | grammar
  /-- An anchor used twice or never set, or a second document. -/
  | composition
  | nestedTooDeep
  /-- A node that stands for no value. -/
  | construction
  | notInteger (base : Nat) (t : Text)
  | integerTooLong (digits : Nat)
  | notDouble (t : Text)
  /-- A number without anything in it. -/
  | emptyNumber
  | notTruth (t : Text)
  | notTimestamp
  | calendar (fault : Calendar.Fault)
  /-- An escape of a number that is no code point, and perhaps no small number at all. -/
  | codePointRange
  | codePointTooLarge
  deriving DecidableEq

/-- Whether a scalar does not spell the number or the time that it should. -/
def Fault.isValueFault : Fault → Bool
  | notInteger _ _ => true
  | integerTooLong _ => true
  | notDouble _ => true
  | calendar _ => true
  | codePointRange => true
  | _ => false

/-- What is said of a scalar that does not spell what it should; the other causes have their own
words, which are not kept. -/
def Fault.message? : Fault → Option Text
  | notInteger base t =>
    some (Text.ofString "invalid literal for int() with base " ++ Text.ofNat base ++
      Text.ofString ": " ++ t.quoted)
  | integerTooLong digits =>
    some (Text.ofString "Exceeds the limit (4300 digits) for integer string conversion: " ++
      Text.ofString "value has " ++ Text.ofNat digits ++
      Text.ofString " digits; use sys.set_int_max_str_digits() to increase the limit")
  | notDouble t => some (Text.ofString "could not convert string to float: " ++ t.quoted)
  | emptyNumber => some (Text.ofString "string index out of range")
  | notTruth t => some t.quoted
  | notTimestamp => some (Text.ofString "'NoneType' object has no attribute 'groupdict'")
  | calendar fault => some fault.message
  | codePointRange => some (Text.ofString "chr() arg not in range(0x110000)")
  | codePointTooLarge => some (Text.ofString "Python int too large to convert to C int")
  | _ => none

/-! ### Classes of code points; the end of the text is seen as `none` -/

def isBreak (c : CodePoint) : Bool :=
  c = .char '\n' || c = .char '\r' || c = .char '\x85' || c = .char '\u2028' || c = .char '\u2029'

/-- A line end or the end of the text. -/
def endsLine (c : Option CodePoint) : Bool := c.all isBreak

/-- A space, a line end or the end of the text. -/
def endsPart (c : Option CodePoint) : Bool := c.all fun c => c = .char ' ' || isBreak c

/-- As `endsPart`, or a tab. -/
def endsWord (c : Option CodePoint) : Bool :=
  c.all fun c => c = .char ' ' || c = .char '\t' || isBreak c

def isOneOf (marks : String) (c : CodePoint) : Bool := (Text.ofString marks).contains c

/-- ASCII letters, digits, hyphen and low line. -/
def isNameCharacter : CodePoint → Bool
  | .char c => c.isAlphanum || c = '-' || c = '_'
  | .surrogate _ => false

/-- A document may hold line ends, tabs, and whatever is printable in the widest sense. -/
def isAdmitted (c : CodePoint) : Bool :=
  let n := c.toNat
  n = 0x09 || n = 0x0A || n = 0x0D || (0x20 ≤ n && n ≤ 0x7E) || n = 0x85 ||
    (0xA0 ≤ n && n ≤ 0xD7FF) || (0xE000 ≤ n && n ≤ 0xFFFD) || 0x10000 ≤ n

structure Cursor where
  rest : Text
  line : Nat
  column : Nat
  /-- How much lies before. -/
  index : Nat

namespace Cursor

def start (t : Text) : Cursor := ⟨t, 0, 0, 0⟩

def peek? (c : Cursor) : Option CodePoint := c.rest.head?

def peekAt? (c : Cursor) (k : Nat) : Option CodePoint := (c.rest.drop k).head?

def isAt (c : Cursor) (mark : Char) : Bool := c.peek? = some (.char mark)

/-- The cursor behind the next code point. A carriage return before a line feed ends no line, and a
byte order mark takes no column. -/
def next (c : Cursor) : Cursor :=
  match c.rest with
  | [] => c
  | ch :: rest =>
    let ends := isBreak ch && !(ch = .char '\r' && rest.head? = some (.char '\n'))
    { rest := rest
      line := if ends then c.line + 1 else c.line
      column := if ends then 0 else if ch = .char '\uFEFF' then c.column else c.column + 1
      index := c.index + 1 }

def advance : Nat → Cursor → Cursor
  | 0, c => c
  | n + 1, c => advance n c.next

/-- The code points of a class that follow, and the cursor behind them. -/
def span (p : CodePoint → Bool) (c : Cursor) : Text × Cursor :=
  let found := c.rest.takeWhile p
  (found, c.advance found.length)

def skip (p : CodePoint → Bool) (c : Cursor) : Cursor := (c.span p).2

def skipSpaces (c : Cursor) : Cursor := c.skip (· = .char ' ')

def skipComment (c : Cursor) : Cursor :=
  if c.isAt '#' then c.skip fun ch => !isBreak ch else c

/-- A line end that begins here, as it counts in a scalar, and the cursor behind it. -/
def lineBreak? (c : Cursor) : Option (CodePoint × Cursor) :=
  match c.rest with
  | .char '\r' :: .char '\n' :: _ => some (.char '\n', c.advance 2)
  | ch :: _ =>
    if ch = .char '\u2028' ∨ ch = .char '\u2029' then some (ch, c.next)
    else if isBreak ch then some (.char '\n', c.next)
    else none
  | [] => none

def skipBreak (c : Cursor) : Cursor := (c.lineBreak?.map (·.2)).getD c

/-- Whether three marks of the given kind and then a word's end follow. -/
def isSeparator (mark : Char) (c : Cursor) : Bool :=
  Text.startsWith c.rest [mark, mark, mark] && endsWord (c.peekAt? 3)

/-- Whether a line that separates documents begins here. -/
def isDocumentSeparator (c : Cursor) : Bool := c.isSeparator '-' || c.isSeparator '.'

end Cursor

end ControlPlaneMetrics.Yaml
