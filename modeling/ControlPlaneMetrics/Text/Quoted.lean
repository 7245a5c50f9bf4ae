import ControlPlaneMetrics.Text.Printable

/-!
Quoted text and octets. A text is put between single quotes, or between double
quotes when it holds a single quote and no double one; what would not be seen as
itself is written as a backslash escape.
-/
namespace ControlPlaneMetrics

/-- The quotation mark for a content that has or lacks each of the two marks. -/
def chooseQuote (hasSingle hasDouble : Bool) : Char :=
  if hasSingle && !hasDouble then '"' else '\''

/-- Backslash, mark letter and digits, as for `\x0a`. -/
def numericEscape (letter : Char) (width n : Nat) : Text :=
  .char '\\' :: .char letter :: Text.hex width n

def escapeCodePoint (quote : Char) (c : CodePoint) : Text :=
  if c = .char quote ∨ c = .char '\\' then [.char '\\', c]
  else if c = .char '\t' then Text.ofString "\\t"
  else if c = .char '\n' then Text.ofString "\\n"
  else if c = .char '\r' then Text.ofString "\\r"
  else if c.isPrintable then [c]
  else if c.toNat < 0x100 then numericEscape 'x' 2 c.toNat
  else if c.toNat < 0x10000 then numericEscape 'u' 4 c.toNat
  else numericEscape 'U' 8 c.toNat

namespace Text

def quoted (t : Text) : Text :=
  let quote := chooseQuote (t.contains (.char '\'')) (t.contains (.char '"'))
  .char quote :: t.flatMap (escapeCodePoint quote) ++ [.char quote]

/-- The text with every code point outside ASCII escaped by its number. -/
def inAscii (t : Text) : Text :=
  t.flatMap fun c =>
    if c.toNat < 0x80 then [c]
    else if c.toNat < 0x100 then numericEscape 'x' 2 c.toNat
    else if c.toNat < 0x10000 then numericEscape 'u' 4 c.toNat
    else numericEscape 'U' 8 c.toNat

end Text

def escapeOctet (quote : Char) (octet : UInt8) : Text :=
  let n := octet.toNat
  let c : CodePoint := .char (Char.ofNat n)
  if c = .char quote ∨ c = .char '\\' then [.char '\\', c]
  else if n = 9 then Text.ofString "\\t"
  else if n = 10 then Text.ofString "\\n"
  else if n = 13 then Text.ofString "\\r"
  else if 0x20 ≤ n ∧ n < 0x7F then [c]
  else numericEscape 'x' 2 n

/-- Octets in the quotes that a text of the same ASCII characters would get, marked with `b`. -/
def quotedOctets (octets : List UInt8) : Text :=
  let quote := chooseQuote (octets.contains 39) (octets.contains 34)
  .char 'b' :: .char quote :: octets.flatMap (escapeOctet quote) ++ [.char quote]

end ControlPlaneMetrics
