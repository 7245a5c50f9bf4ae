import ControlPlaneMetrics.Text.Encoding

/-!
Text in the encoding forms of Unicode is read again: by characters in each form, and in the form that
is guessed from the first octets if the text begins with two characters of ASCII. This is of scalar
values, not of surrogates by themselves.
-/
namespace ControlPlaneMetrics

/-! ## Code points by their numbers -/

theorem CodePoint.ofNat?_toNat (c : Char) : CodePoint.ofNat? c.toNat = some (.char c) := by
  have valid : c.toNat.isValidChar := c.valid
  unfold CodePoint.ofNat?
  exact dif_pos valid

theorem CodePoint.ofNat_toNat (c : Char) : CodePoint.ofNat c.toNat = .char c := by
  rw [CodePoint.ofNat, CodePoint.ofNat?_toNat, Option.getD_some]

theorem CodePoint.toNat_range (c : Char) :
    c.toNat < 0xD800 ∨ 0xDFFF < c.toNat ∧ c.toNat < 0x110000 :=
  c.valid

theorem CodePoint.ofNat_half {n : Nat} (low : 0xD800 ≤ n) (high : n < 0xE000) :
    CodePoint.ofNat n = .surrogate ⟨n - 0xD800, by omega⟩ := by
  have invalid : ¬n.isValidChar := by
    unfold Nat.isValidChar
    omega
  unfold CodePoint.ofNat CodePoint.ofNat?
  rw [dif_neg invalid, dif_pos ⟨low, high⟩, Option.getD_some]

/-- The two halves of a pair spell the code point that they were made of. -/
theorem CodePoint.join_halves {c : Char} (wide : 0x10000 ≤ c.toNat) :
    let high := CodePoint.ofNat (0xD800 + (c.toNat - 0x10000) / 0x400)
    let low := CodePoint.ofNat (0xDC00 + (c.toNat - 0x10000) % 0x400)
    high.isHighSurrogate = true ∧ low.isLowSurrogate = true ∧
      CodePoint.join high low = .char c := by
  have range := CodePoint.toNat_range c
  intro high low
  have first : high = _ := CodePoint.ofNat_half (by omega) (by omega)
  have second : low = _ := CodePoint.ofNat_half (by omega) (by omega)
  refine ⟨?_, ?_, ?_⟩
  · rw [first]
    simp only [isHighSurrogate, decide_eq_true_eq]
    omega
  · rw [second]
    simp only [isLowSurrogate, decide_eq_true_eq]
    omega
  · have whole : 0x10000 + (high.toNat - 0xD800) * 0x400 + (low.toNat - 0xDC00) = c.toNat := by
      rw [first, second]
      simp only [toNat]
      omega
    rw [join, whole, ofNat_toNat]

namespace Encoding

/-! ## Octets of a text -/

/-- The two octets of a number below `0x10000`. -/
def octets16 (order : ByteOrder) (n : Nat) : List UInt8 :=
  match order with
  | .little => [(n % 0x100).toUInt8, (n / 0x100).toUInt8]
  | .big => [(n / 0x100).toUInt8, (n % 0x100).toUInt8]

/-- The octets of a scalar value in UTF-16: a pair of halves beyond the basic plane. -/
def utf16Octets (order : ByteOrder) (n : Nat) : List UInt8 :=
  if n < 0x10000 then octets16 order n
  else octets16 order (0xD800 + (n - 0x10000) / 0x400) ++
    octets16 order (0xDC00 + (n - 0x10000) % 0x400)

/-- The octets of a scalar value in UTF-32. -/
def utf32Octets (order : ByteOrder) (n : Nat) : List UInt8 :=
  match order with
  | .little => octets16 .little (n % 0x10000) ++ octets16 .little (n / 0x10000)
  | .big => octets16 .big (n / 0x10000) ++ octets16 .big (n % 0x10000)

def octetsOf : EncodingForm → CodePoint → List UInt8
  | .utf8, c => utf8Octets c.toNat
  | .utf16 order, c => utf16Octets order c.toNat
  | .utf32 order, c => utf32Octets order c.toNat

/-- The octets of a text, without a mark of their order. -/
def encode (form : EncodingForm) (t : Text) : List UInt8 := t.flatMap (octetsOf form)

/-! ## UTF-16 and UTF-32 -/

theorem toNat_toUInt8 {n : Nat} (small : n < 0x100) : n.toUInt8.toNat = n := by
  simp [Nat.mod_eq_of_lt small]

theorem unit16_octets16 (order : ByteOrder) {n : Nat} (unit : n < 0x10000) :
    ∃ a b, octets16 order n = [a, b] ∧ unit16 order a b = n := by
  cases order with
  | little =>
    refine ⟨_, _, rfl, ?_⟩
    rw [unit16, toNat_toUInt8 (by omega), toNat_toUInt8 (by omega)]
    omega
  | big =>
    refine ⟨_, _, rfl, ?_⟩
    rw [unit16, toNat_toUInt8 (by omega), toNat_toUInt8 (by omega)]
    omega

theorem utf16From_char (order : ByteOrder) (offset : Nat) (done : Text) (c : Char)
    (rest : List UInt8) : ∃ next,
      utf16From order offset none done (utf16Octets order c.toNat ++ rest) =
        utf16From order next none (.char c :: done) rest := by
  have range := CodePoint.toNat_range c
  unfold utf16Octets
  split
  · next narrow =>
    obtain ⟨a, b, octets, unit⟩ := unit16_octets16 order narrow
    refine ⟨offset + 2, ?_⟩
    simp only [octets, List.cons_append, List.nil_append, utf16From, unit, CodePoint.ofNat_toNat,
      CodePoint.isHighSurrogate, Bool.false_eq_true, if_false]
  · next wide =>
    obtain ⟨a, b, octets, unit⟩ := unit16_octets16 order
      (show 0xD800 + (c.toNat - 0x10000) / 0x400 < 0x10000 by omega)
    obtain ⟨a', b', octets', unit'⟩ := unit16_octets16 order
      (show 0xDC00 + (c.toNat - 0x10000) % 0x400 < 0x10000 by omega)
    obtain ⟨high, low, joined⟩ := CodePoint.join_halves (Nat.not_lt.mp wide)
    refine ⟨offset + 2 + 2, ?_⟩
    simp only [octets, octets', List.cons_append, List.nil_append, utf16From, unit, unit', high, low,
      joined, if_true]

theorem utf32From_char (order : ByteOrder) (offset : Nat) (done : Text) (c : Char)
    (rest : List UInt8) : utf32From order offset done (utf32Octets order c.toNat ++ rest) =
      utf32From order (offset + 4) (.char c :: done) rest := by
  have range := CodePoint.toNat_range c
  have low (order : ByteOrder) := unit16_octets16 order
    (show c.toNat % 0x10000 < 0x10000 from Nat.mod_lt _ (by decide))
  have high (order : ByteOrder) := unit16_octets16 order
    (show c.toNat / 0x10000 < 0x10000 by omega)
  cases order with
  | little =>
    obtain ⟨a, b, octets, unit⟩ := low .little
    obtain ⟨a', b', octets', unit'⟩ := high .little
    have whole : unit32 .little a b a' b' = c.toNat := by
      rw [unit32, unit, unit']
      omega
    simp only [utf32Octets, octets, octets', List.cons_append, List.nil_append, utf32From, whole,
      CodePoint.ofNat?_toNat]
  | big =>
    obtain ⟨a, b, octets, unit⟩ := high .big
    obtain ⟨a', b', octets', unit'⟩ := low .big
    have whole : unit32 .big a b a' b' = c.toNat := by
      rw [unit32, unit, unit']
      omega
    simp only [utf32Octets, octets, octets', List.cons_append, List.nil_append, utf32From, whole,
      CodePoint.ofNat?_toNat]

/-! ## UTF-8: how many octets a character has is told by the first -/

theorem isTail_iff {octet : UInt8} :
    isTail octet = true ↔ 0x80 ≤ octet.toNat ∧ octet.toNat < 0xC0 := by
  rw [isTail, Bool.and_eq_true, decide_eq_true_eq, decide_eq_true_eq, UInt8.le_iff_toNat_le,
    UInt8.lt_iff_toNat_lt]
  exact Iff.rfl

theorem utf8From_one (offset : Nat) (done : Text) {a : UInt8} (rest : List UInt8)
    (ascii : a.toNat < 0x80) :
    utf8From offset done (a :: rest) = utf8From (offset + 1) (assemble a.toNat [] :: done) rest := by
  have first : a < 0x80 := UInt8.lt_iff_toNat_lt.mpr ascii
  rw [utf8From.eq_def]
  exact if_pos first

theorem lead_iff {a : UInt8} :
    (¬a < 0x80 ∧ ¬(a < 0xC2 ∨ 0xF5 ≤ a)) ↔ 0xC2 ≤ a.toNat ∧ a.toNat < 0xF5 := by
  have low : a < 0xC2 ↔ a.toNat < 0xC2 := UInt8.lt_iff_toNat_lt
  have high : 0xF5 ≤ a ↔ 0xF5 ≤ a.toNat := UInt8.le_iff_toNat_le
  have ascii : a < 0x80 ↔ a.toNat < 0x80 := UInt8.lt_iff_toNat_lt
  rw [low, high, ascii]
  omega

theorem utf8From_two (offset : Nat) (done : Text) {a b : UInt8} (rest : List UInt8)
    (low : 0xC2 ≤ a.toNat) (high : a.toNat < 0xE0) (tail : isTail b = true) :
    utf8From offset done (a :: b :: rest) =
      utf8From (offset + 2) (assemble (a.toNat - 0xC0) [b] :: done) rest := by
  obtain ⟨ascii, start⟩ := lead_iff.mpr ⟨low, Nat.lt_trans high (by decide)⟩
  have two : a < 0xE0 := UInt8.lt_iff_toNat_lt.mpr high
  rw [utf8From.eq_def]
  simp only [ascii, start, two, tail, if_true, if_false]

theorem utf8From_three (offset : Nat) (done : Text) {a b c : UInt8} (rest : List UInt8)
    (low : 0xE0 ≤ a.toNat) (high : a.toNat < 0xF0) (admitted : admits a b = true)
    (tail : isTail c = true) : utf8From offset done (a :: b :: c :: rest) =
      utf8From (offset + 3) (assemble (a.toNat - 0xE0) [b, c] :: done) rest := by
  obtain ⟨ascii, start⟩ :=
    lead_iff.mpr ⟨Nat.le_trans (by decide) low, Nat.lt_trans high (by decide)⟩
  have two : ¬a < 0xE0 := fun less => Nat.not_lt.mpr low (UInt8.lt_iff_toNat_lt.mp less)
  have three : a < 0xF0 := UInt8.lt_iff_toNat_lt.mpr high
  rw [utf8From.eq_def]
  simp only [ascii, start, two, three, admitted, tail, true_or, not_true_eq_false, if_true, if_false]

theorem utf8From_four (offset : Nat) (done : Text) {a b c d : UInt8} (rest : List UInt8)
    (low : 0xF0 ≤ a.toNat) (high : a.toNat < 0xF5) (admitted : admits a b = true)
    (third : isTail c = true) (fourth : isTail d = true) :
    utf8From offset done (a :: b :: c :: d :: rest) =
      utf8From (offset + 4) (assemble (a.toNat - 0xF0) [b, c, d] :: done) rest := by
  obtain ⟨ascii, start⟩ := lead_iff.mpr ⟨Nat.le_trans (by decide) low, high⟩
  have two : ¬a < 0xE0 := fun less =>
    Nat.not_lt.mpr (Nat.le_trans (by decide) low) (UInt8.lt_iff_toNat_lt.mp less)
  have three : ¬a < 0xF0 := fun less => Nat.not_lt.mpr low (UInt8.lt_iff_toNat_lt.mp less)
  rw [utf8From.eq_def]
  simp only [ascii, start, two, three, admitted, third, fourth, not_true_eq_false, if_false]

theorem admits_of_range (lead : UInt8) {second : UInt8} (tail : isTail second = true)
    (least : lead.toNat = 0xE0 → 0xA0 ≤ second.toNat)
    (unpaired : lead.toNat = 0xED → second.toNat < 0xA0)
    (wide : lead.toNat = 0xF0 → 0x90 ≤ second.toNat)
    (most : lead.toNat = 0xF4 → second.toNat < 0x90) : admits lead second = true := by
  unfold admits
  rw [tail, Bool.true_and]
  split
  · next same => exact decide_eq_true (UInt8.le_iff_toNat_le.mpr (least (congrArg UInt8.toNat same)))
  split
  · next same =>
    exact decide_eq_true (UInt8.lt_iff_toNat_lt.mpr (unpaired (congrArg UInt8.toNat same)))
  split
  · next same => exact decide_eq_true (UInt8.le_iff_toNat_le.mpr (wide (congrArg UInt8.toNat same)))
  split
  · next same => exact decide_eq_true (UInt8.lt_iff_toNat_lt.mpr (most (congrArg UInt8.toNat same)))
  · rfl

theorem utf8From_char (offset : Nat) (done : Text) (c : Char) (rest : List UInt8) :
    ∃ next, utf8From offset done (utf8Octets c.toNat ++ rest) =
      utf8From next (.char c :: done) rest := by
  have range := CodePoint.toNat_range c
  have tail {n : Nat} (low : 0x80 ≤ n) (high : n < 0xC0) : isTail n.toUInt8 = true := by
    rw [isTail_iff, toNat_toUInt8 (by omega)]
    exact ⟨low, high⟩
  unfold utf8Octets
  split
  · refine ⟨offset + 1, ?_⟩
    have first : c.toNat.toUInt8.toNat = c.toNat := toNat_toUInt8 (by omega)
    have whole : assemble c.toNat [] = .char c := CodePoint.ofNat_toNat c
    rw [List.singleton_append, utf8From_one _ _ _ (by omega), first, whole]
  split
  · refine ⟨offset + 2, ?_⟩
    have first : (0xC0 + c.toNat / 64).toUInt8.toNat = 0xC0 + c.toNat / 64 :=
      toNat_toUInt8 (by omega)
    have second : (0x80 + c.toNat % 64).toUInt8.toNat = 0x80 + c.toNat % 64 :=
      toNat_toUInt8 (by omega)
    have whole : assemble (c.toNat / 64) [(0x80 + c.toNat % 64).toUInt8] = .char c := by
      rw [← CodePoint.ofNat_toNat c, assemble, List.foldl_cons, List.foldl_nil, second]
      congr 1
      omega
    rw [List.cons_append, List.singleton_append, utf8From_two _ _ _ (by omega) (by omega)
      (tail (by omega) (by omega)), first, Nat.add_sub_cancel_left, whole]
  split
  · refine ⟨offset + 3, ?_⟩
    have first : (0xE0 + c.toNat / 4096).toUInt8.toNat = 0xE0 + c.toNat / 4096 :=
      toNat_toUInt8 (by omega)
    have second : (0x80 + c.toNat / 64 % 64).toUInt8.toNat = 0x80 + c.toNat / 64 % 64 :=
      toNat_toUInt8 (by omega)
    have third : (0x80 + c.toNat % 64).toUInt8.toNat = 0x80 + c.toNat % 64 :=
      toNat_toUInt8 (by omega)
    have admitted := admits_of_range (0xE0 + c.toNat / 4096).toUInt8
      (tail (show 0x80 ≤ 0x80 + c.toNat / 64 % 64 by omega) (by omega)) (by omega) (by omega)
      (by omega) (by omega)
    have whole : assemble (c.toNat / 4096) [(0x80 + c.toNat / 64 % 64).toUInt8,
        (0x80 + c.toNat % 64).toUInt8] = .char c := by
      rw [← CodePoint.ofNat_toNat c, assemble, List.foldl_cons, List.foldl_cons, List.foldl_nil,
        second, third]
      congr 1
      omega
    rw [List.cons_append, List.cons_append, List.singleton_append, utf8From_three _ _ _ (by omega)
      (by omega) admitted (tail (by omega) (by omega)), first, Nat.add_sub_cancel_left, whole]
  · refine ⟨offset + 4, ?_⟩
    have first : (0xF0 + c.toNat / 262144).toUInt8.toNat = 0xF0 + c.toNat / 262144 :=
      toNat_toUInt8 (by omega)
    have second : (0x80 + c.toNat / 4096 % 64).toUInt8.toNat = 0x80 + c.toNat / 4096 % 64 :=
      toNat_toUInt8 (by omega)
    have third : (0x80 + c.toNat / 64 % 64).toUInt8.toNat = 0x80 + c.toNat / 64 % 64 :=
      toNat_toUInt8 (by omega)
    have fourth : (0x80 + c.toNat % 64).toUInt8.toNat = 0x80 + c.toNat % 64 :=
      toNat_toUInt8 (by omega)
    have admitted := admits_of_range (0xF0 + c.toNat / 262144).toUInt8
      (tail (show 0x80 ≤ 0x80 + c.toNat / 4096 % 64 by omega) (by omega)) (by omega) (by omega)
      (by omega) (by omega)
    have whole : assemble (c.toNat / 262144) [(0x80 + c.toNat / 4096 % 64).toUInt8,
        (0x80 + c.toNat / 64 % 64).toUInt8, (0x80 + c.toNat % 64).toUInt8] = .char c := by
      rw [← CodePoint.ofNat_toNat c, assemble, List.foldl_cons, List.foldl_cons, List.foldl_cons,
        List.foldl_nil, second, third, fourth]
      congr 1
      omega
    rw [List.cons_append, List.cons_append, List.cons_append, List.singleton_append,
      utf8From_four _ _ _ (by omega) (by omega) admitted (tail (by omega) (by omega))
      (tail (by omega) (by omega)), first, Nat.add_sub_cancel_left, whole]

/-! ## Texts in every form -/

/-- Reads on after some text, in whatever form. -/
def readOn (form : EncodingForm) (offset : Nat) (done : Text) (octets : List UInt8) :
    Except EncodingFault Text :=
  match form with
  | .utf8 => utf8From offset done octets
  | .utf16 order => utf16From order offset none done octets
  | .utf32 order => utf32From order offset done octets

theorem readOn_char (form : EncodingForm) (offset : Nat) (done : Text) (c : Char)
    (rest : List UInt8) : ∃ next, readOn form offset done (octetsOf form (.char c) ++ rest) =
      readOn form next (.char c :: done) rest := by
  cases form with
  | utf8 => exact utf8From_char offset done c rest
  | utf16 order => exact utf16From_char order offset done c rest
  | utf32 order => exact ⟨offset + 4, utf32From_char order offset done c rest⟩

theorem readOn_encode (form : EncodingForm) (offset : Nat) (done : Text) {t : Text}
    (whole : t.hasSurrogate = false) :
    readOn form offset done (encode form t) = .ok (done.reverse ++ t) := by
  induction t generalizing offset done with
  | nil => cases form <;> simp [readOn, encode, utf8From, utf16From, utf32From]
  | cons c t ih =>
    simp only [Text.hasSurrogate, List.any_cons, Bool.or_eq_false_iff] at whole
    cases c with
    | surrogate index => exact absurd whole.1 (by simp [CodePoint.isSurrogate])
    | char c =>
      obtain ⟨next, read⟩ := readOn_char form offset done c (encode form t)
      have later := ih next (.char c :: done) whole.2
      rw [encode, List.flatMap_cons, ← encode, read, later]
      simp

theorem decodeFrom_encode (form : EncodingForm) (offset : Nat) {t : Text}
    (whole : t.hasSurrogate = false) : decodeFrom form offset (encode form t) = .ok t := by
  rw [show decodeFrom form offset (encode form t) = readOn form offset [] (encode form t) by
    cases form <;> rfl]
  exact readOn_encode form offset [] whole

/-! ## Telling the form by the first octets -/

/-- A character of ASCII other than the first of all. -/
def IsAscii (c : Char) : Prop := 0 < c.toNat ∧ c.toNat < 0x80

instance (c : Char) : Decidable (IsAscii c) := inferInstanceAs (Decidable (_ ∧ _))

/-- The octet of a character of ASCII. -/
theorem IsAscii.octet {c : Char} (ascii : IsAscii c) :
    c.toNat.toUInt8 ≠ 0 ∧ c.toNat.toUInt8 < 0x80 := by
  obtain ⟨some, few⟩ := ascii
  have value : c.toNat.toUInt8.toNat = c.toNat := by
    rw [Nat.toUInt8, UInt8.toNat_ofNat']
    omega
  constructor
  · intro zero
    rw [zero] at value
    exact absurd value.symm (Nat.ne_of_gt some)
  · rw [UInt8.lt_iff_toNat_lt, value]
    exact few

/-- The octets of a character of ASCII are its own octet among zeros. -/
theorem octetsOf_ascii (form : EncodingForm) {c : Char} (ascii : IsAscii c) :
    octetsOf form (.char c) =
      match form with
      | .utf8 => [c.toNat.toUInt8]
      | .utf16 .little => [c.toNat.toUInt8, 0]
      | .utf16 .big => [0, c.toNat.toUInt8]
      | .utf32 .little => [c.toNat.toUInt8, 0, 0, 0]
      | .utf32 .big => [0, 0, 0, c.toNat.toUInt8] := by
  obtain ⟨_, few⟩ := ascii
  have unit : c.toNat < 0x10000 := by omega
  have high : c.toNat / 0x100 = 0 := by omega
  have low : c.toNat % 0x100 = c.toNat := by omega
  have plane : c.toNat / 0x10000 = 0 := by omega
  have inner : c.toNat % 0x10000 = c.toNat := by omega
  have zero : (0 : Nat).toUInt8 = 0 := rfl
  match form with
  | .utf8 => exact if_pos few
  | .utf16 .little =>
    simp only [octetsOf, CodePoint.toNat, utf16Octets, if_pos unit, octets16, high, low, zero]
  | .utf16 .big =>
    simp only [octetsOf, CodePoint.toNat, utf16Octets, if_pos unit, octets16, high, low, zero]
  | .utf32 .little =>
    simp only [octetsOf, CodePoint.toNat, utf32Octets, octets16, plane, inner, high, low,
      Nat.zero_div, Nat.zero_mod, zero, List.cons_append, List.nil_append]
  | .utf32 .big =>
    simp only [octetsOf, CodePoint.toNat, utf32Octets, octets16, plane, inner, high, low,
      Nat.zero_div, Nat.zero_mod, zero, List.cons_append, List.nil_append]

/-- No mark begins with an octet of ASCII but zero. -/
theorem marked?_ascii {a : UInt8} (some : a ≠ 0) (few : a < 0x80) (rest : List UInt8) :
    marked? (a :: rest) = none := by
  have octet {b : UInt8} (high : ¬b < 0x80) : a ≠ b := fun same => high (same ▸ few)
  unfold marked?
  split
  · next same => exact absurd (List.cons.inj same).1 some
  · next same => exact absurd (List.cons.inj same).1 (octet (by decide))
  · next same => exact absurd (List.cons.inj same).1 (octet (by decide))
  · next same => exact absurd (List.cons.inj same).1 (octet (by decide))
  · next same => exact absurd (List.cons.inj same).1 (octet (by decide))
  · rfl

theorem marked?_zero {b c : UInt8} (rest : List UInt8) (inner : b ≠ 0 ∨ c = 0) :
    marked? (0 :: b :: c :: rest) = none := by
  unfold marked?
  split
  · next same =>
    cases same
    exact absurd inner (by decide)
  · next same => exact absurd (List.cons.inj same).1 (by decide)
  · next same => exact absurd (List.cons.inj same).1 (by decide)
  · next same => exact absurd (List.cons.inj same).1 (by decide)
  · next same => exact absurd (List.cons.inj same).1 (by decide)
  · rfl

theorem guess_utf8 {a b : UInt8} (first : a ≠ 0) (second : b ≠ 0) (rest : List UInt8) :
    guess (a :: b :: rest) = .utf8 := by
  match rest with
  | [] => simp only [guess, first, second, if_false]
  | [c] => rfl
  | c :: d :: rest => simp only [guess, first, second, if_false]

/-- The first two characters of a text tell its form, if they are of ASCII. -/
theorem guess_encode (form : EncodingForm) {a b : Char} (first : IsAscii a) (second : IsAscii b)
    (t : Text) : marked? (encode form (.char a :: .char b :: t)) = none ∧
      guess (encode form (.char a :: .char b :: t)) = form := by
  obtain ⟨some, few⟩ := first.octet
  obtain ⟨other, _⟩ := second.octet
  rw [encode, List.flatMap_cons, List.flatMap_cons, octetsOf_ascii form first,
    octetsOf_ascii form second]
  match form with
  | .utf8 => exact ⟨marked?_ascii some few _, guess_utf8 some other _⟩
  | .utf16 .little =>
    refine ⟨marked?_ascii some few _, ?_⟩
    simp only [List.cons_append, List.nil_append, guess, some, other, false_and, if_true, if_false]
  | .utf16 .big =>
    refine ⟨marked?_zero _ (.inl some), ?_⟩
    simp only [List.cons_append, List.nil_append, guess, some, if_true, if_false]
  | .utf32 .little =>
    refine ⟨marked?_ascii some few _, ?_⟩
    simp only [List.cons_append, List.nil_append, guess, some, and_self, if_true, if_false]
  | .utf32 .big =>
    exact ⟨marked?_zero _ (.inr rfl), rfl⟩

/-- A text is read from its octets in any of the forms. -/
theorem decode_encode (form : EncodingForm) {a b : Char} (first : IsAscii a) (second : IsAscii b)
    {t : Text} (whole : t.hasSurrogate = false) :
    decode (encode form (.char a :: .char b :: t)) = .ok (.char a :: .char b :: t) := by
  obtain ⟨unmarked, guessed⟩ := guess_encode form first second t
  rw [decode, unmarked, guessed]
  exact decodeFrom_encode form 0 whole

end Encoding

end ControlPlaneMetrics
