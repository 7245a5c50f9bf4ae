import ControlPlaneMetrics.Value

/-!
The JSON text of a value, in ASCII: a comma and a colon are followed by one space, a
code point outside printable ASCII is escaped by its number, and one beyond the
basic plane by the two halves of its surrogate pair.
-/
namespace ControlPlaneMetrics.Json

/-- The escape by number of a code point, in one or two units of sixteen bits. -/
def numericEscape (c : CodePoint) : Text :=
  let unit (n : Nat) : Text := Text.ofString "\\u" ++ Text.hex 4 n
  let n := c.toNat
  if n < 0x10000 then unit n
  else unit (0xD800 + (n - 0x10000) / 0x400) ++ unit (0xDC00 + (n - 0x10000) % 0x400)

def escaped : CodePoint → Text
  | .char '"' => Text.ofString "\\\""
  | .char '\\' => Text.ofString "\\\\"
  | .char '\n' => Text.ofString "\\n"
  | .char '\r' => Text.ofString "\\r"
  | .char '\t' => Text.ofString "\\t"
  | .char '\x08' => Text.ofString "\\b"
  | .char '\x0c' => Text.ofString "\\f"
  | c => if 0x20 ≤ c.toNat ∧ c.toNat ≤ 0x7E then [c] else numericEscape c

def writeText (t : Text) : Text := .char '"' :: t.flatMap escaped ++ [.char '"']

def writeNumber (x : Binary64) : Text :=
  if x.isNan then Text.ofString "NaN"
  else if x.isInfinite then
    Text.ofString (if x.compareInt? 0 = some .lt then "-Infinity" else "Infinity")
  else x.toText

mutual

/-- The JSON text of a value. Octets, which JSON lacks, are written as the array of their
numbers. -/
def write : Value → Text
  | .null => Text.ofString "null"
  | .bool b => Text.ofString (if b then "true" else "false")
  | .int n => Text.ofInt n
  | .float x => writeNumber x
  | .text t => writeText t
  | .bytes octets =>
    .char '[' :: Text.joinWith (Text.ofString ", ") (octets.map fun o => Text.ofNat o.toNat) ++
      [.char ']']
  | .list items => .char '[' :: writeItems items ++ [.char ']']
  | .object members => .char '{' :: writeMembers members ++ [.char '}']

def writeItems : List Value → Text
  | [] => []
  | [v] => write v
  | v :: rest => write v ++ Text.ofString ", " ++ writeItems rest

def writeMembers : List (Text × Value) → Text
  | [] => []
  | [(name, v)] => writeText name ++ Text.ofString ": " ++ write v
  | (name, v) :: rest =>
    writeText name ++ Text.ofString ": " ++ write v ++ Text.ofString ", " ++ writeMembers rest

end

end ControlPlaneMetrics.Json
