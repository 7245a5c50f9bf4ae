import ControlPlaneMetrics.Text.Basic

/-!
The encoding forms of Unicode, read with unpaired surrogates allowed, and the
guess of a form from the first octets of a JSON text. A fault names the range of
octets that cannot be read.
-/
namespace ControlPlaneMetrics

inductive ByteOrder where
  | little
  | big
  deriving DecidableEq

inductive EncodingForm where
  | utf8
  | utf16 (order : ByteOrder)
  | utf32 (order : ByteOrder)
  deriving DecidableEq

inductive EncodingFlaw where
  | startByte
  | continuationByte
  | endOfData
  | truncated
  | outOfRange
  deriving DecidableEq

/-- The octets from offset `first` up to before `stop` cannot be read. -/
structure EncodingFault where
  form : EncodingForm
  flaw : EncodingFlaw
  first : Nat
  stop : Nat
  octet : UInt8
  deriving DecidableEq

namespace EncodingForm

def name : EncodingForm → Text
  | utf8 => Text.ofString "utf-8"
  | utf16 .little => Text.ofString "utf-16-le"
  | utf16 .big => Text.ofString "utf-16-be"
  | utf32 .little => Text.ofString "utf-32-le"
  | utf32 .big => Text.ofString "utf-32-be"

end EncodingForm

def EncodingFlaw.message : EncodingFlaw → Text
  | startByte => Text.ofString "invalid start byte"
  | continuationByte => Text.ofString "invalid continuation byte"
  | endOfData => Text.ofString "unexpected end of data"
  | truncated => Text.ofString "truncated data"
  | outOfRange => Text.ofString "code point not in range(0x110000)"

def EncodingFault.message (fault : EncodingFault) : Text :=
  Text.ofString "'" ++ fault.form.name ++ Text.ofString "' codec can't decode " ++
    (if fault.stop = fault.first + 1 then
      Text.ofString "byte 0x" ++ Text.hex 2 fault.octet.toNat ++ Text.ofString " in position " ++
        Text.ofNat fault.first
    else
      Text.ofString "bytes in position " ++ Text.ofNat fault.first ++ Text.ofString "-" ++
        Text.ofNat (fault.stop - 1)) ++
    Text.ofString ": " ++ fault.flaw.message

namespace Encoding

/-- An octet that continues a character in UTF-8. -/
def isTail (octet : UInt8) : Bool := 0x80 ≤ octet && octet < 0xC0

/-- Whether a lead octet of three or four admits this second octet, surrogates not counted. -/
def admits (lead second : UInt8) : Bool :=
  isTail second &&
    (if lead = 0xE0 then 0xA0 ≤ second
    else if lead = 0xED then second < 0xA0
    else if lead = 0xF0 then 0x90 ≤ second
    else if lead = 0xF4 then second < 0x90
    else true)

/-- The low six bits of continuation octets behind the payload of a lead octet. -/
def assemble (payload : Nat) (tails : List UInt8) : CodePoint :=
  CodePoint.ofNat (tails.foldl (fun n t => n * 64 + t.toNat % 64) payload)

/-- Reads UTF-8 from offset `offset`; three octets may spell a surrogate. -/
def utf8From (offset : Nat) (done : Text) : List UInt8 → Except EncodingFault Text
  | [] => .ok done.reverse
  | a :: r =>
    let fault (flaw : EncodingFlaw) (length : Nat) : Except EncodingFault Text :=
      .error ⟨.utf8, flaw, offset, offset + length, a⟩
    if a < 0x80 then utf8From (offset + 1) (assemble a.toNat [] :: done) r
    else if a < 0xC2 ∨ 0xF5 ≤ a then fault .startByte 1
    else match r with
    | [] => fault .endOfData 1
    | b :: r =>
      if a < 0xE0 then
        if isTail b then utf8From (offset + 2) (assemble (a.toNat - 0xC0) [b] :: done) r
        else fault .continuationByte 1
      else match r with
      | [] => if admits a b then fault .endOfData 2 else fault .continuationByte 1
      | c :: r =>
        if a < 0xF0 then
          if ¬(admits a b ∨ (a = 0xED ∧ isTail b ∧ isTail c)) then fault .continuationByte 1
          else if ¬isTail c then fault .continuationByte 2
          else utf8From (offset + 3) (assemble (a.toNat - 0xE0) [b, c] :: done) r
        else if ¬admits a b then fault .continuationByte 1
        else if ¬isTail c then fault .continuationByte 2
        else match r with
        | [] => fault .endOfData 3
        | d :: r =>
          if ¬isTail d then fault .continuationByte 3
          else utf8From (offset + 4) (assemble (a.toNat - 0xF0) [b, c, d] :: done) r

def unit16 (order : ByteOrder) (a b : UInt8) : Nat :=
  match order with
  | .little => b.toNat * 0x100 + a.toNat
  | .big => a.toNat * 0x100 + b.toNat

/-- Reads UTF-16 from offset `offset`, where `high` is a first half that has been passed. -/
def utf16From (order : ByteOrder) (offset : Nat) (high : Option CodePoint) (done : Text) :
    List UInt8 → Except EncodingFault Text
  | [] => .ok (high.toList ++ done).reverse
  | [a] => .error ⟨.utf16 order, .truncated, offset, offset + 1, a⟩
  | a :: b :: r =>
    let c := CodePoint.ofNat (unit16 order a b)
    match high with
    | some h =>
      if c.isLowSurrogate then utf16From order (offset + 2) none (CodePoint.join h c :: done) r
      else if c.isHighSurrogate then utf16From order (offset + 2) (some c) (h :: done) r
      else utf16From order (offset + 2) none (c :: h :: done) r
    | none =>
      if c.isHighSurrogate then utf16From order (offset + 2) (some c) done r
      else utf16From order (offset + 2) none (c :: done) r

def unit32 (order : ByteOrder) (a b c d : UInt8) : Nat :=
  match order with
  | .little => unit16 .little c d * 0x10000 + unit16 .little a b
  | .big => unit16 .big a b * 0x10000 + unit16 .big c d

def utf32From (order : ByteOrder) (offset : Nat) (done : Text) :
    List UInt8 → Except EncodingFault Text
  | [] => .ok done.reverse
  | a :: b :: c :: d :: r =>
    match CodePoint.ofNat? (unit32 order a b c d) with
    | some c => utf32From order (offset + 4) (c :: done) r
    | none => .error ⟨.utf32 order, .outOfRange, offset, offset + 4, a⟩
  | a :: r => .error ⟨.utf32 order, .truncated, offset, offset + 1 + r.length, a⟩

/-- Reads octets in the given form, counting offsets from `offset`. -/
def decodeFrom (form : EncodingForm) (offset : Nat) (octets : List UInt8) :
    Except EncodingFault Text :=
  match form with
  | .utf8 => utf8From offset [] octets
  | .utf16 order => utf16From order offset none [] octets
  | .utf32 order => utf32From order offset [] octets

/-- The form told by a byte order mark, the octets after the mark and their offset; in UTF-8 offsets
are counted from after the mark. -/
def marked? : List UInt8 → Option (EncodingForm × Nat × List UInt8)
  | 0x00 :: 0x00 :: 0xFE :: 0xFF :: r => some (.utf32 .big, 4, r)
  | 0xFF :: 0xFE :: 0x00 :: 0x00 :: r => some (.utf32 .little, 4, r)
  | 0xFE :: 0xFF :: r => some (.utf16 .big, 2, r)
  | 0xFF :: 0xFE :: r => some (.utf16 .little, 2, r)
  | 0xEF :: 0xBB :: 0xBF :: r => some (.utf8, 0, r)
  | _ => none

/-- The form of unmarked JSON text, from the zeros among its first octets: the first character of
such a text is in ASCII. -/
def guess : List UInt8 → EncodingForm
  | a :: b :: c :: d :: _ =>
    if a = 0 then if b = 0 then .utf32 .big else .utf16 .big
    else if b = 0 then if c = 0 ∧ d = 0 then .utf32 .little else .utf16 .little
    else .utf8
  | [a, b] => if a = 0 then .utf16 .big else if b = 0 then .utf16 .little else .utf8
  | _ => .utf8

/-- The text of octets in whatever form they are. -/
def decode (octets : List UInt8) : Except EncodingFault Text :=
  match marked? octets with
  | some (form, offset, rest) => decodeFrom form offset rest
  | none => decodeFrom (guess octets) 0 octets

/-- The text of octets in UTF-8 without surrogates; none if they are no such text. -/
def utf8? (octets : List UInt8) : Option Text :=
  match utf8From 0 [] octets with
  | .ok t => if t.hasSurrogate then none else some t
  | .error _ => none

/-- The octets of a scalar value in UTF-8. -/
def utf8Octets (n : Nat) : List UInt8 :=
  if n < 0x80 then [n.toUInt8]
  else if n < 0x800 then [(0xC0 + n / 64).toUInt8, (0x80 + n % 64).toUInt8]
  else if n < 0x10000 then
    [(0xE0 + n / 4096).toUInt8, (0x80 + n / 64 % 64).toUInt8, (0x80 + n % 64).toUInt8]
  else
    [(0xF0 + n / 262144).toUInt8, (0x80 + n / 4096 % 64).toUInt8, (0x80 + n / 64 % 64).toUInt8,
      (0x80 + n % 64).toUInt8]

end Encoding

/-- A run of surrogates that keeps a text from being written as UTF-8. -/
structure UnpairedFault where
  position : Nat
  length : Nat
  first : CodePoint
  deriving DecidableEq

namespace UnpairedFault

/-- The first run of surrogates in the text. -/
def find? (t : Text) : Option UnpairedFault :=
  match t.dropWhile fun c => !c.isSurrogate with
  | [] => none
  | c :: rest =>
    some ⟨t.length - (rest.length + 1), (rest.takeWhile CodePoint.isSurrogate).length + 1, c⟩

theorem find?_eq_none_iff (t : Text) :
    UnpairedFault.find? t = none ↔ t.hasSurrogate = false := by
  have scan : (t.dropWhile fun c => !c.isSurrogate) = [] ↔ t.hasSurrogate = false := by
    induction t with
    | nil => exact iff_of_true rfl rfl
    | cons c t ih =>
      cases c with
      | char c => exact ih
      | surrogate index => exact iff_of_false nofun nofun
  rw [← scan, find?]
  split
  · next none => simp [none]
  · next some => simp [some]

def message (fault : UnpairedFault) : Text :=
  let reason := Text.ofString ": surrogates not allowed"
  if fault.length = 1 then
    Text.ofString "'utf-8' codec can't encode character '\\u" ++ Text.hex 4 fault.first.toNat ++
      Text.ofString "' in position " ++ Text.ofNat fault.position ++ reason
  else
    Text.ofString "'utf-8' codec can't encode characters in position " ++
      Text.ofNat fault.position ++ .char '-' ::
      Text.ofNat (fault.position + fault.length - 1) ++ reason

end UnpairedFault

end ControlPlaneMetrics
