/-!
Double-precision numbers as exact data: a finite number is a signed integer times
a power of two, and every operation is integer arithmetic. Rounding goes to the
nearest representable number, and of two equally near ones to the even one.
-/
namespace ControlPlaneMetrics

/-- The coefficient and exponent that the format gives a finite magnitude: 53 bits at most, and
fewer only where the exponent is the least one. -/
def Canonical (coefficient : Nat) (exponent : Int) : Prop :=
  coefficient < 0x20000000000000 ∧ -1074 ≤ exponent ∧ exponent ≤ 971 ∧
    (0x10000000000000 ≤ coefficient ∨ exponent = -1074)

instance (coefficient : Nat) (exponent : Int) : Decidable (Canonical coefficient exponent) := by
  unfold Canonical; infer_instance

/-- `finite negative m e` is `m * 2 ^ e`, with its sign kept for zero too. -/
inductive Binary64 where
  | finite (negative : Bool) (coefficient : Nat) (exponent : Int)
      (canonical : Canonical coefficient exponent)
  | infinite (negative : Bool)
  | nan
  deriving DecidableEq

namespace Binary64

def zero (negative : Bool := false) : Binary64 := .finite negative 0 (-1074) (by decide)

instance : Inhabited Binary64 := ⟨zero⟩

/-- The number of these parts; what the format cannot hold is infinite. -/
def ofParts (negative : Bool) (coefficient : Nat) (exponent : Int) : Binary64 :=
  if h : Canonical coefficient exponent then .finite negative coefficient exponent h
  else .infinite negative

/-- The quotient rounded to the nearest integer, a half to the even one. -/
def roundDiv (num den : Nat) : Nat :=
  let quotient := num / den
  let rest := num % den
  if 2 * rest > den ∨ (2 * rest = den ∧ quotient % 2 = 1) then quotient + 1 else quotient

/-- `n * 2 ^ shift` over `den` as a fraction of naturals. -/
def scaleTwo (num den : Nat) (shift : Int) : Nat × Nat :=
  if 0 ≤ shift then (num * Nat.pow 2 shift.toNat, den)
  else (num, den * Nat.pow 2 (-shift).toNat)

/-- `n * 10 ^ shift` over `den` as a fraction of naturals. -/
def scaleTen (num den : Nat) (shift : Int) : Nat × Nat :=
  if 0 ≤ shift then (num * Nat.pow 10 shift.toNat, den)
  else (num, den * Nat.pow 10 (-shift).toNat)

/-- The greatest `k` with `2 ^ k ≤ num / den`, for positive `num` and `den`. -/
def floorLog2 (num den : Nat) : Int :=
  let k : Int := (num.log2 : Int) - den.log2
  let (n, d) := scaleTwo num den (-k)
  if d ≤ n then k else k - 1

/-- The double nearest to a fraction. -/
def ofRatio (negative : Bool) (num den : Nat) : Binary64 :=
  if num = 0 ∨ den = 0 then zero negative
  else
    let exponent := max (floorLog2 num den - 52) (-1074)
    let (n, d) := scaleTwo num den (-exponent)
    let coefficient := roundDiv n d
    if coefficient = 0x20000000000000 then ofParts negative 0x10000000000000 (exponent + 1)
    else ofParts negative coefficient exponent

/-- The double nearest to `coefficient * 10 ^ exponent`. Exponents that decide the answer on their
own are not expanded into digits. -/
def ofDecimal (negative : Bool) (coefficient : Nat) (exponent : Int) : Binary64 :=
  if coefficient = 0 then zero negative
  else if exponent > 400 then infinite negative
  else if exponent + coefficient.log2 / 3 + 1 < -400 then zero negative
  else
    let (num, den) := scaleTen coefficient 1 exponent
    ofRatio negative num den

def ofInt (n : Int) : Binary64 := ofRatio (n < 0) n.natAbs 1

def isNegative : Binary64 → Bool
  | finite negative .. => negative
  | infinite negative => negative
  | nan => false

def isNan : Binary64 → Bool
  | nan => true
  | _ => false

def isInfinite : Binary64 → Bool
  | infinite _ => true
  | _ => false

def isZero : Binary64 → Bool
  | finite _ coefficient _ _ => coefficient = 0
  | _ => false

/-- The order of a number and an integer; none for nan. -/
def compareInt? : Binary64 → Int → Option Ordering
  | nan, _ => none
  | infinite negative, _ => some (if negative then .lt else .gt)
  | finite negative coefficient exponent _, n =>
    let (num, den) := scaleTwo coefficient 1 exponent
    let signed : Int := if negative then -num else num
    some (compare signed (n * den))

/-- Numeric equality: both zeros are equal and nan equals nothing. -/
def same : Binary64 → Binary64 → Bool
  | nan, _ => false
  | _, nan => false
  | infinite a, infinite b => a = b
  | finite a m e _, finite b n f _ => (m = 0 && n = 0) || (a = b && m = n && e = f)
  | _, _ => false

/-- A finite number as a quotient; the others as zero. -/
def toRatio : Binary64 → Int × Nat
  | finite negative coefficient exponent _ =>
    let (num, den) := scaleTwo coefficient 1 exponent
    (if negative then -num else num, den)
  | _ => (0, 1)

def ofQuotient (num : Int) (den : Nat) : Binary64 := ofRatio (num < 0) num.natAbs den

def add (x y : Binary64) : Binary64 :=
  match x, y with
  | nan, _ => nan
  | _, nan => nan
  | infinite a, infinite b => if a = b then infinite a else nan
  | infinite a, _ => infinite a
  | _, infinite b => infinite b
  | x, y =>
    let (a, b) := x.toRatio
    let (c, d) := y.toRatio
    ofQuotient (a * d + c * b) (b * d)

def mul (x y : Binary64) : Binary64 :=
  match x, y with
  | nan, _ => nan
  | _, nan => nan
  | infinite a, y => if y.isZero then nan else infinite (a != y.isNegative)
  | x, infinite b => if x.isZero then nan else infinite (x.isNegative != b)
  | x, y =>
    let (a, b) := x.toRatio
    let (c, d) := y.toRatio
    ofRatio (x.isNegative != y.isNegative) (a * c).natAbs (b * d)

/-- The integer that the number is, if it is one. -/
def toInt? : Binary64 → Option Int
  | finite negative coefficient exponent _ =>
    let (num, den) := scaleTwo coefficient 1 exponent
    if num % den = 0 then
      let magnitude : Int := (num / den : Nat)
      some (if negative then -magnitude else magnitude)
    else none
  | _ => none

end Binary64

end ControlPlaneMetrics
