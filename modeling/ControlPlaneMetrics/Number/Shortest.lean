import ControlPlaneMetrics.Number.Binary64
import ControlPlaneMetrics.Text.Basic

/-!
Decimal text of doubles. `shortest?` finds the fewest digits that read back as
the same number, and of those the nearest to it; `fixed` and `scientific` give a
chosen number of digits of the exact value, a half going to the even digit.
-/
namespace ControlPlaneMetrics.Binary64

/-- The least `k ≤ fuel` with `den ≤ num * 10 ^ k`. -/
def leadingZeros (num den : Nat) : (fuel : Nat) → Nat
  | 0 => 0
  | fuel + 1 => if den ≤ num then 0 else leadingZeros (num * 10) den fuel + 1

/-- The greatest `p` with `10 ^ p ≤ num / den`, for positive fractions above `10 ^ -400`. -/
def floorLog10 (num den : Nat) : Int :=
  if den ≤ num then ((Nat.toDigits 10 (num / den)).length : Int) - 1
  else -(leadingZeros num den 400 : Int)

def fraction (coefficient : Nat) (exponent : Int) : Nat × Nat := scaleTwo coefficient 1 exponent

/-- The grid point of `digits` digits that reads back as `m * 2 ^ e`: the nearer one if both
neighbours of the value do. -/
def readingBack? (coefficient : Nat) (exponent : Int) (digits : Nat) : Option (Nat × Int) :=
  let (num, den) := fraction coefficient exponent
  let step := floorLog10 num den - digits + 1
  let (n, d) := scaleTen num den (-step)
  let below := n / d
  let value := ofParts false coefficient exponent
  let reads (c : Nat) : Bool := ofDecimal false c step = value
  let nearest := roundDiv n d
  let other := if nearest = below then below + 1 else below
  if reads nearest then some (nearest, step)
  else if reads other then some (other, step)
  else none

/-- Coefficient and decimal exponent of the shortest decimal that reads back. -/
def shortest? (coefficient : Nat) (exponent : Int) : Option (Nat × Int) :=
  (List.range 17).findSome? fun k => readingBack? coefficient exponent (k + 1)

/-- How a number is written: positionally while the power of ten of its first digit is in
`least` to `most`, and otherwise with an exponent of at least two digits. -/
structure Layout where
  least : Int
  most : Int
  pointZero : Bool

def exponentText (power : Int) : Text :=
  let digits := Text.ofNat power.natAbs
  Text.ofString (if power < 0 then "e-" else "e+") ++
    (if digits.length < 2 then .char '0' :: digits else digits)

/-- Digits whose first one stands for `10 ^ power`, laid out. -/
def Layout.place (layout : Layout) (digits : Text) (power : Int) : Text :=
  let point : CodePoint := '.'
  if layout.least ≤ power ∧ power ≤ layout.most then
    if power < 0 then
      .char '0' :: point :: (List.replicate (-power - 1).toNat (.char '0') ++ digits)
    else
      let whole := power.toNat + 1
      if digits.length ≤ whole then
        digits ++ List.replicate (whole - digits.length) (.char '0') ++
          (if layout.pointZero then Text.ofString ".0" else [])
      else digits.take whole ++ point :: digits.drop whole
  else
    match digits with
    | [] => []
    | [d] => d :: exponentText power
    | d :: rest => d :: point :: rest ++ exponentText power

/-- Numbers from `0.0001` up to below `10 ^ 16` are written positionally, whole ones with `.0`. -/
def plain : Layout := ⟨-4, 15, true⟩

/-- The digits of a natural number without the zeros at its end, and how many those were. -/
def significant (n : Nat) : Text := ((Text.ofNat n).reverse.dropWhile (· = .char '0')).reverse

def signed (negative : Bool) (t : Text) : Text := if negative then .char '-' :: t else t

def toText : Binary64 → Text
  | nan => Text.ofString "nan"
  | infinite negative => signed negative (Text.ofString "inf")
  | finite negative coefficient exponent _ =>
    signed negative <|
      if coefficient = 0 then Text.ofString "0.0"
      else match shortest? coefficient exponent with
        | none => []
        | some (digits, step) =>
          plain.place (significant digits) (((Text.ofNat digits).length : Int) - 1 + step)

/-- A natural number's digits with a point before the last `places`. -/
def withPoint (n places : Nat) (keepPoint : Bool) : Text :=
  let digits := Text.ofNat n
  let digits := List.replicate (places + 1 - digits.length) (.char '0') ++ digits
  let whole := digits.take (digits.length - places)
  if places = 0 ∧ ¬keepPoint then whole
  else whole ++ .char '.' :: digits.drop (digits.length - places)

/-- The magnitude with a fixed number of places. -/
def fixed (num den places : Nat) (keepPoint : Bool) : Text :=
  withPoint (roundDiv (num * Nat.pow 10 places) den) places keepPoint

/-- The first `places + 1` digits and the power of ten of the first one. -/
def leadingDigits (num den places : Nat) : Text × Int :=
  if num = 0 then (List.replicate (places + 1) (.char '0'), 0)
  else
    let power := floorLog10 num den
    let (n, d) := scaleTen num den ((places : Int) - power)
    let digits := Text.ofNat (roundDiv n d)
    if digits.length > places + 1 then (digits.take (places + 1), power + 1) else (digits, power)

/-- The magnitude as one digit, a fixed number of places and an exponent. -/
def scientific (num den places : Nat) (keepPoint : Bool) : Text :=
  let (digits, power) := leadingDigits num den places
  let mantissa := match digits with
    | [] => []
    | d :: rest => if rest.isEmpty ∧ ¬keepPoint then [d] else d :: .char '.' :: rest
  mantissa ++ exponentText power

/-- The magnitude with `digits` significant digits: positional while the first digit's power of ten
is at least `-4` and below `digits`; zeros at the end are dropped unless `keepPoint`. -/
def general (num den digits : Nat) (keepPoint : Bool) : Text :=
  let digits := max digits 1
  let (figures, power) := leadingDigits num den (digits - 1)
  let kept := if keepPoint then figures
    else match (figures.reverse.dropWhile (· = .char '0')).reverse with
      | [] => figures.take 1
      | trimmed => trimmed
  if -4 ≤ power ∧ power < digits then
    let body := Layout.place ⟨-4, digits, false⟩ kept power
    if keepPoint ∧ ¬body.contains (.char '.') then body ++ [.char '.'] else body
  else match kept with
    | [d] => (if keepPoint then [d, .char '.'] else [d]) ++ exponentText power
    | d :: rest => d :: .char '.' :: rest ++ exponentText power
    | [] => []

end ControlPlaneMetrics.Binary64
