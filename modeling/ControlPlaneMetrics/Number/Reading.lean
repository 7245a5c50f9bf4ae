import ControlPlaneMetrics.Number.Binary64
import ControlPlaneMetrics.Text.Blank

/-!
Numbers read from text. Two notations are accepted: the generous one of
configuration values (digits of any script, digit groups joined by low lines, any
blank around), and the one of the schema's coercions (ASCII digits, white space).
-/
namespace ControlPlaneMetrics

/-- The value of a run of digits in the given base. -/
def digitsValue (base : Nat) (digits : List Nat) : Nat := digits.foldl (fun n d => n * base + d) 0

/-- The sign in front of a number, true for minus, and what follows it. -/
def takeSign : Text → Bool × Text
  | .char '-' :: t => (true, t)
  | .char '+' :: t => (false, t)
  | t => (false, t)

def takeDigits (t : Text) : List Nat × Text :=
  ((t.takeWhile CodePoint.isDigit).filterMap CodePoint.digit?, t.dropWhile CodePoint.isDigit)

/-- An unsigned decimal: digits with at most one point among or beside them, and an optional
exponent. -/
def readMagnitude? (negative : Bool) (t : Text) : Option Binary64 :=
  let (whole, t) := takeDigits t
  let (places, t) := match t with
    | .char '.' :: t => takeDigits t
    | t => ([], t)
  if whole.isEmpty ∧ places.isEmpty then none
  else
    let coefficient := digitsValue 10 (whole ++ places)
    let scale (exponent : Int) := Binary64.ofDecimal negative coefficient (exponent - places.length)
    match t with
    | [] => some (scale 0)
    | .char e :: t =>
      if e = 'e' ∨ e = 'E' then
        let (below, t) := takeSign t
        match takeDigits t with
        | ([], _) => none
        | (digits, []) =>
          let power : Int := digitsValue 10 digits
          some (scale (if below then -power else power))
        | _ => none
      else none
    | _ => none

/-- A decimal or one of the names of the special numbers, in ASCII and without blanks. -/
def readDouble? (t : Text) : Option Binary64 :=
  let (negative, body) := takeSign t
  let name := Text.lower body
  if name = Text.ofString "inf" ∨ name = Text.ofString "infinity" then some (.infinite negative)
  else if name = Text.ofString "nan" then some .nan
  else readMagnitude? negative body

/-- Digits of other scripts replaced by ASCII ones. -/
def asciiDigits (t : Text) : Text :=
  t.map fun c => match c.decimal? with
    | some d => .char (Nat.digitChar d)
    | none => c

/-- The text without low lines; none unless each stood between two digits. -/
def joinGroups? (t : Text) : Option Text := go none t
where
  go (before : Option CodePoint) : Text → Option Text
    | [] => some []
    | .char '_' :: d :: t =>
      if (before.map CodePoint.isDigit).getD false && d.isDigit then
        (go (some d) t).map (d :: ·)
      else none
    | .char '_' :: [] => none
    | c :: t => (go (some c) t).map (c :: ·)

def parseDouble? (t : Text) : Option Binary64 :=
  (joinGroups? (asciiDigits (t.trim CodePoint.isBlank))).bind readDouble?

/-- The most digits an integer's text may have. -/
def maxIntegerDigits : Nat := 4300

inductive IntegerFault where
  | malformed
  | tooLong (digits : Nat)

def parseInteger (t : Text) : Except IntegerFault Int :=
  let (negative, body) := takeSign (asciiDigits (t.trim CodePoint.isBlank))
  match joinGroups? body with
  | none => .error .malformed
  | some digits =>
    if digits.isEmpty ∨ ¬digits.all CodePoint.isDigit then .error .malformed
    else if digits.length > maxIntegerDigits then .error (.tooLong digits.length)
    else
      let n : Int := digitsValue 10 (takeDigits digits).1
      .ok (if negative then -n else n)

end ControlPlaneMetrics
