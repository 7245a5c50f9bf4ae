import ControlPlaneMetrics.Text.Basic

/-! White space and decimal digits of all scripts, and the letter cases that meet ASCII names. -/
namespace ControlPlaneMetrics.CodePoint

/-- White space by the Unicode property of that name. -/
def isWhiteSpace (c : CodePoint) : Bool :=
  let n := c.toNat
  (9 ≤ n && n ≤ 13) || n == 0x20 || n == 0x85 || n == 0xA0 || n == 0x1680 ||
    (0x2000 ≤ n && n ≤ 0x200A) || n == 0x2028 || n == 0x2029 || n == 0x202F || n == 0x205F ||
    n == 0x3000

/-- White space, or one of the four information separators of ASCII. -/
def isBlank (c : CodePoint) : Bool :=
  c.isWhiteSpace || (0x1C ≤ c.toNat && c.toNat ≤ 0x1F)

/-- Unicode 14 zeros; each is followed by its nine other digits. -/
def zeros : List Nat := [
  0x30, 0x660, 0x6F0, 0x7C0, 0x966, 0x9E6, 0xA66, 0xAE6, 0xB66, 0xBE6, 0xC66, 0xCE6, 0xD66, 0xDE6,
  0xE50, 0xED0, 0xF20, 0x1040, 0x1090, 0x17E0, 0x1810, 0x1946, 0x19D0, 0x1A80, 0x1A90, 0x1B50,
  0x1BB0, 0x1C40, 0x1C50, 0xA620, 0xA8D0, 0xA900, 0xA9D0, 0xA9F0, 0xAA50, 0xABF0, 0xFF10, 0x104A0,
  0x10D30, 0x11066, 0x110F0, 0x11136, 0x111D0, 0x112F0, 0x11450, 0x114D0, 0x11650, 0x116C0,
  0x11730, 0x118E0, 0x11950, 0x11C50, 0x11D50, 0x11DA0, 0x16A60, 0x16AC0, 0x16B50, 0x1D7CE,
  0x1D7D8, 0x1D7E2, 0x1D7EC, 0x1D7F6, 0x1E140, 0x1E2F0, 0x1E950, 0x1FBF0]

def decimal? (c : CodePoint) : Option Nat :=
  let n := c.toNat
  if n < 0x80 then c.digit? else (zeros.find? fun first => first ≤ n && n < first + 10).map (n - ·)

end CodePoint

namespace Text

/-- Lower case as far as it matters when a name is compared with an ASCII name: of the other
letters only the Kelvin sign becomes an ASCII letter. -/
def lower (t : Text) : Text :=
  t.map fun
    | .char c => if c = '\u212A' then .char 'k' else .char c.toLower
    | c => c

/-- Upper case as far as it matters when a name is compared with an ASCII name: the listed letters
and ligatures become ASCII letters, others stay outside ASCII. -/
def upper (t : Text) : Text :=
  t.flatMap fun
    | .char '\u00DF' => ofString "SS"
    | .char '\u0131' => ofString "I"
    | .char '\u017F' => ofString "S"
    | .char '\uFB00' => ofString "FF"
    | .char '\uFB01' => ofString "FI"
    | .char '\uFB02' => ofString "FL"
    | .char '\uFB03' => ofString "FFI"
    | .char '\uFB04' => ofString "FFL"
    | .char '\uFB05' => ofString "ST"
    | .char '\uFB06' => ofString "ST"
    | .char c => [.char c.toUpper]
    | c => [c]

end Text

end ControlPlaneMetrics
