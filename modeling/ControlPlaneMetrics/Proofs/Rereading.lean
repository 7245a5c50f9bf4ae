import ControlPlaneMetrics.Json.Writer
import ControlPlaneMetrics.Proofs.Nesting
import ControlPlaneMetrics.Proofs.Octets

/-!
What is written as JSON is read again. This holds of values of nulls, truth values, integers and
texts, in arrays and in objects that name each member once, as long as the reader takes as many
digits and as many containers within each other. A text may be of any code points but unpaired
surrogates, of which two could be joined when they are read.
-/
namespace ControlPlaneMetrics

/-! ## Code points by their numbers -/

theorem Text.hex_four {n : Nat} (unit : n < 0x10000) :
    Text.hex 4 n = [n / 4096, n / 256 % 16, n / 16 % 16, n % 16].map fun d =>
      CodePoint.char (Nat.digitChar d) := by
  have step (m : Nat) : Nat.toDigits 16 m =
      if m < 16 then [Nat.digitChar m] else Nat.toDigits 16 (m / 16) ++ [Nat.digitChar (m % 16)] :=
    Nat.toDigits_eq_if (by decide)
  have zero : Nat.digitChar 0 = '0' := rfl
  unfold Text.hex
  by_cases one : n < 16
  · rw [step n, if_pos one]
    simp [zero, List.replicate, show n / 4096 = 0 by omega, show n / 256 = 0 by omega,
      show n / 16 = 0 by omega, show n % 16 = n by omega]
  by_cases two : n < 256
  · rw [step n, if_neg one, step (n / 16), if_pos (by omega)]
    simp [zero, List.replicate, show n / 4096 = 0 by omega, show n / 256 = 0 by omega,
      show n / 16 % 16 = n / 16 by omega]
  by_cases three : n < 4096
  · rw [step n, if_neg one, step (n / 16), if_neg (by omega), step (n / 16 / 16), if_pos (by omega)]
    simp [zero, show n / 4096 = 0 by omega, show n / 16 / 16 = n / 256 by omega,
      show n / 256 % 16 = n / 256 by omega]
  · rw [step n, if_neg one, step (n / 16), if_neg (by omega), step (n / 16 / 16),
      if_neg (by omega), step (n / 16 / 16 / 16), if_pos (by omega)]
    simp [show n / 16 / 16 / 16 = n / 4096 by omega, show n / 16 / 16 % 16 = n / 256 % 16 by omega]

theorem CodePoint.hexDigit?_digitChar {d : Nat} (digit : d < 16) :
    (CodePoint.char (Nat.digitChar d)).hexDigit? = some d := by
  have all : ∀ d < 16, (CodePoint.char (Nat.digitChar d)).hexDigit? = some d := by decide
  exact all d digit

namespace Json

/-! ## Strings -/

theorem hexUnit?_hex {n : Nat} (unit : n < 0x10000) (rest : Text) :
    hexUnit? (Text.hex 4 n ++ rest) = some (n, rest) := by
  have read {d : Nat} (digit : d < 16) := CodePoint.hexDigit?_digitChar digit
  have whole : ((n / 4096 * 16 + n / 256 % 16) * 16 + n / 16 % 16) * 16 + n % 16 = n := by omega
  rw [Text.hex_four unit]
  simp only [List.map_cons, List.map_nil, List.cons_append, List.nil_append, hexUnit?,
    read (show n / 4096 < 16 by omega), read (Nat.mod_lt _ (by decide : 0 < 16)), whole]

theorem drop_hex {n : Nat} (unit : n < 0x10000) (rest : Text) :
    (Text.hex 4 n ++ rest).drop 4 = rest := by
  rw [Text.hex_four unit]
  rfl

theorem innerHexUnit?_hex {n : Nat} (unit : n < 0x10000) {rest : Text} (more : rest ≠ []) :
    innerHexUnit? (Text.hex 4 n ++ rest) = some (n, rest) := by
  rw [innerHexUnit?, drop_hex unit, hexUnit?_hex unit, if_neg (by simpa using more)]

theorem unicodeEscape_hex (c : Char) (narrow : c.toNat < 0x10000) {rest : Text} (more : rest ≠ []) :
    unicodeEscape (Text.hex 4 c.toNat ++ rest) = .ok (.char c, rest) := by
  simp only [unicodeEscape, innerHexUnit?_hex narrow more, CodePoint.ofNat_toNat,
    CodePoint.isHighSurrogate, Bool.false_eq_true, false_and, if_false]
  split <;> rfl

theorem unicodeEscape_pair {m n : Nat} (first : m < 0x10000) (second : n < 0x10000)
    (high : (CodePoint.ofNat m).isHighSurrogate = true)
    (low : (CodePoint.ofNat n).isLowSurrogate = true) {rest : Text} (more : rest ≠ []) :
    unicodeEscape (Text.hex 4 m ++ .char '\\' :: .char 'u' :: (Text.hex 4 n ++ rest)) =
      .ok (CodePoint.join (CodePoint.ofNat m) (CodePoint.ofNat n), rest) := by
  have room : ¬rest.isEmpty = true := by simpa using more
  simp only [unicodeEscape, innerHexUnit?_hex first (List.cons_ne_nil _ _), high,
    drop_hex second, room, hexUnit?_hex second, low, Bool.false_eq_true, not_false_eq_true, and_self,
    if_true]

theorem stringBody_unicode (opening : Text) (fuel : Nat) (done : Text) {c : CodePoint} {t rest : Text}
    (read : unicodeEscape t = .ok (c, rest)) :
    stringBody opening (fuel + 1) done (.char '\\' :: .char 'u' :: t) =
      stringBody opening fuel (c :: done) rest := by
  simp only [stringBody, read]

theorem stringBody_plain (opening : Text) (fuel : Nat) (done rest : Text) {c : Char}
    (printable : 0x20 ≤ c.toNat) (quote : c ≠ '"') (escape : c ≠ '\\') :
    stringBody opening (fuel + 1) done (.char c :: rest) =
      stringBody opening fuel (.char c :: done) rest := by
  have visible : ¬(CodePoint.char c).toNat < 0x20 := Nat.not_lt.mpr printable
  rw [stringBody]
  · exact if_neg visible
  · rintro ⟨⟩
    exact quote rfl
  · rintro _ ⟨⟩
    exact absurd rfl escape
  · rintro _ _ ⟨⟩
    exact absurd rfl escape
  · rintro ⟨⟩
    exact absurd rfl escape
  · rintro _ _ ⟨⟩
    exact absurd rfl escape

theorem numericEscape_narrow {c : Char} (narrow : c.toNat < 0x10000) :
    numericEscape (.char c) = .char '\\' :: .char 'u' :: Text.hex 4 c.toNat := if_pos narrow

theorem unit_append (s t : Text) : Text.ofString "\\u" ++ s ++ (Text.ofString "\\u" ++ t) =
    .char '\\' :: .char 'u' :: (s ++ .char '\\' :: .char 'u' :: t) := rfl

theorem numericEscape_wide {c : Char} (wide : ¬c.toNat < 0x10000) :
    ∃ m n, m < 0x10000 ∧ n < 0x10000 ∧ (CodePoint.ofNat m).isHighSurrogate = true ∧
      (CodePoint.ofNat n).isLowSurrogate = true ∧
      CodePoint.join (CodePoint.ofNat m) (CodePoint.ofNat n) = .char c ∧
      numericEscape (.char c) = .char '\\' :: .char 'u' ::
        (Text.hex 4 m ++ .char '\\' :: .char 'u' :: Text.hex 4 n) := by
  have range := CodePoint.toNat_range c
  obtain ⟨high, low, joined⟩ := CodePoint.join_halves (Nat.not_lt.mp wide)
  exact ⟨_, _, by omega, by omega, high, low, joined, (if_neg wide).trans (unit_append _ _)⟩

theorem escaped_ne_nil (c : CodePoint) : escaped c ≠ [] := by
  unfold escaped
  split
  all_goals try exact List.cons_ne_nil _ _
  split
  · exact List.cons_ne_nil _ _
  · simp only [numericEscape]
    split <;> exact List.cons_ne_nil _ _

/-- The reader takes an escape for the code point that it stands for. -/
theorem stringBody_escaped (opening : Text) (fuel : Nat) (done : Text) (c : Char) {rest : Text}
    (more : rest ≠ []) :
    stringBody opening (fuel + 1) done (escaped (.char c) ++ rest) =
      stringBody opening fuel (.char c :: done) rest := by
  have range := CodePoint.toNat_range c
  unfold escaped
  split
  · next same => cases same; rfl
  · next same => cases same; rfl
  · next same => cases same; rfl
  · next same => cases same; rfl
  · next same => cases same; rfl
  · next same => cases same; rfl
  · next same => cases same; rfl
  · next quote escape _ _ _ _ _ =>
    split
    · next printable =>
      refine stringBody_plain opening fuel done rest printable.1 ?_ ?_
      · exact fun same => quote (congrArg CodePoint.char same)
      · exact fun same => escape (congrArg CodePoint.char same)
    · by_cases narrow : c.toNat < 0x10000
      · rw [numericEscape_narrow narrow]
        exact stringBody_unicode _ _ _ (unicodeEscape_hex c narrow more)
      · obtain ⟨m, n, first, second, high, low, joined, escape⟩ := numericEscape_wide narrow
        have read := unicodeEscape_pair first second high low more
        rw [joined] at read
        rw [escape, List.cons_append, List.cons_append, List.append_assoc]
        exact stringBody_unicode _ _ _ read

theorem stringBody_written (opening : Text) {fuel : Nat} (done : Text) {t : Text} (rest : Text)
    (whole : t.hasSurrogate = false) (room : t.length < fuel) :
    stringBody opening fuel done (t.flatMap escaped ++ .char '"' :: rest) =
      .ok (done.reverse ++ t, rest) := by
  induction t generalizing fuel done with
  | nil =>
    obtain ⟨left, rfl⟩ := Nat.exists_eq_add_of_lt room
    simp [stringBody]
  | cons c t ih =>
    obtain ⟨left, rfl⟩ : ∃ left, fuel = left + 1 := ⟨fuel - 1, by omega⟩
    simp only [Text.hasSurrogate, List.any_cons, Bool.or_eq_false_iff] at whole
    cases c with
    | surrogate index => exact absurd whole.1 (by simp [CodePoint.isSurrogate])
    | char c =>
      have later := ih (.char c :: done) whole.2 (by simpa using room)
      rw [List.flatMap_cons, List.append_assoc, stringBody_escaped _ _ _ _ (by simp), later]
      simp

theorem length_le_flatMap_escaped (t : Text) : t.length ≤ (t.flatMap escaped).length := by
  induction t with
  | nil => exact Nat.le_refl _
  | cons c t ih =>
    have one := List.length_pos_iff.mpr (escaped_ne_nil c)
    rw [List.flatMap_cons, List.length_append, List.length_cons]
    omega

theorem string_written {t : Text} (rest : Text) (whole : t.hasSurrogate = false) :
    string (t.flatMap escaped ++ .char '"' :: rest) = .ok (t, rest) := by
  have room := length_le_flatMap_escaped t
  refine stringBody_written _ [] rest whole ?_
  rw [List.length_append, List.length_cons]
  omega

/-! ## Integers -/

/-- What comes after a value: the end, or a mark that ends an element or a member. -/
def Stops (rest : Text) : Prop :=
  ∀ c t, rest = c :: t → c = .char ',' ∨ c = .char ']' ∨ c = .char '\x7d'

theorem Stops.nil : Stops [] := nofun

theorem Stops.cons {c : CodePoint} (t : Text)
    (mark : c = .char ',' ∨ c = .char ']' ∨ c = .char '\x7d') : Stops (c :: t) := by
  rintro _ _ ⟨⟩
  exact mark

theorem Stops.head_isDigit {rest : Text} (stops : Stops rest) :
    ∀ c ∈ rest.head?, c.isDigit = false := by
  intro c first
  cases rest with
  | nil => cases first
  | cons d t =>
    cases first
    rcases stops _ t rfl with rfl | rfl | rfl <;> decide

theorem Stops.places? {rest : Text} (stops : Stops rest) : places? rest = none := by
  cases rest with
  | nil => rfl
  | cons c t => rcases stops c t rfl with rfl | rfl | rfl <;> rfl

theorem Stops.exponent? {rest : Text} (stops : Stops rest) : exponent? rest = none := by
  cases rest with
  | nil => rfl
  | cons c t => rcases stops c t rfl with rfl | rfl | rfl <;> rfl

/-- The decimal digits of a number as they are written. -/
def decimal (n : Nat) : Text := (Nat.toDigits 10 n).map .char

theorem ofInt_ofNat (n : Nat) : Text.ofInt (Int.ofNat n) = decimal n :=
  congrArg (List.map CodePoint.char) String.toList_ofList

theorem ofInt_negSucc (n : Nat) : Text.ofInt (Int.negSucc n) = .char '-' :: decimal (n + 1) := by
  have shape : (toString (Int.negSucc n)).toList = '-' :: Nat.toDigits 10 (n + 1) := by
    change ("-" ++ String.ofList (Nat.toDigits 10 (n + 1))).toList = _
    simp
  exact congrArg (List.map CodePoint.char) shape

theorem decimal_isDigit (n : Nat) : ∀ c ∈ decimal n, c.isDigit = true := by
  intro c member
  obtain ⟨d, digit, rfl⟩ := List.mem_map.mp member
  exact Nat.isDigit_of_mem_toDigits (by decide) (by decide) digit

theorem digitsValue_toDigits (n : Nat) :
    digitsValue 10 ((Nat.toDigits 10 n).map fun c => c.toNat - 48) = n := by
  have value := Nat.ofDigitChars_toDigits (b := 10) (n := n) (by decide) (by decide)
  have order (d : Char) (m : Nat) : 10 * m + (d.toNat - 48) = m * 10 + (d.toNat - 48) := by omega
  simpa [digitsValue, Nat.ofDigitChars, List.foldl_map, order] using value

/-- The digits are all taken, and nothing of what follows them. -/
theorem takeDigits_decimal (n : Nat) {rest : Text} (stops : Stops rest) :
    takeDigits (decimal n ++ rest) = ((Nat.toDigits 10 n).map fun c => c.toNat - 48, rest) := by
  have digits := decimal_isDigit n
  have taken : rest.takeWhile CodePoint.isDigit = [] := by
    cases rest with
    | nil => rfl
    | cons c t => exact List.takeWhile_cons_of_neg (by simp [stops.head_isDigit c rfl])
  have left : rest.dropWhile CodePoint.isDigit = rest := by
    cases rest with
    | nil => rfl
    | cons c t => exact List.dropWhile_cons_of_neg (by simp [stops.head_isDigit c rfl])
  have read (s : List Char) (all : ∀ c ∈ s, c.isDigit = true) :
      (s.map CodePoint.char).filterMap CodePoint.digit? = s.map fun c => c.toNat - 48 := by
    induction s with
    | nil => rfl
    | cons c s ih =>
      obtain ⟨first, others⟩ := List.forall_mem_cons.mp all
      simp [CodePoint.digit?, first, ih others]
  rw [takeDigits, List.takeWhile_append_of_pos digits, List.dropWhile_append_of_pos digits, taken,
    left, List.append_nil, decimal, read]
  exact fun c member => Nat.isDigit_of_mem_toDigits (by decide) (by decide) member

/-- No number but zero begins with a zero. -/
theorem decimal_head {n : Nat} (positive : 0 < n) :
    ∃ d t, 0 < d ∧ d < 10 ∧ decimal n = .char (Nat.digitChar d) :: t := by
  induction n using Nat.strongRecOn with
  | ind n ih =>
    have step := Nat.toDigits_eq_if (b := 10) (n := n) (by decide)
    by_cases small : n < 10
    · exact ⟨n, [], positive, small, by rw [decimal, step, if_pos small]; rfl⟩
    · obtain ⟨d, t, nonzero, digit, shape⟩ := ih (n / 10) (by omega) (by omega)
      refine ⟨d, t ++ [.char (Nat.digitChar (n % 10))], nonzero, digit, ?_⟩
      rw [decimal, step, if_neg small, List.map_append]
      exact congrArg (· ++ _) shape

theorem magnitude_decimal (start : Text) (negative : Bool) {n : Nat} {rest : Text}
    (short : (Nat.toDigits 10 n).length ≤ maxIntegerDigits) (stops : Stops rest) :
    magnitude start negative (decimal n ++ rest) =
      .ok (.int (if negative then -n else n), rest) := by
  have some : ((Nat.toDigits 10 n).map fun c => c.toNat - 48).isEmpty = false := by
    have length := Nat.length_toDigits_pos (b := 10) (n := n)
    cases digits : Nat.toDigits 10 n with
    | nil => simp [digits] at length
    | cons => rfl
  unfold magnitude
  split
  next digits left shape =>
  -- a zero is read by itself, and a number that is not zero begins with another digit
  have whole : (digits, left) = ((Nat.toDigits 10 n).map fun c => c.toNat - 48, rest) := by
    rw [← shape]
    rcases Nat.eq_zero_or_pos n with rfl | positive
    · rfl
    · obtain ⟨d, t, nonzero, digit, head⟩ := decimal_head positive
      rw [← takeDigits_decimal n stops, head, List.cons_append]
      split
      · next zero =>
        have other : ∀ d < 10, 0 < d → Nat.digitChar d ≠ '0' := by decide
        have same := (List.cons.inj zero).1
        exact absurd (CodePoint.char.inj same) (other d digit nonzero)
      · rfl
  obtain ⟨rfl, rfl⟩ := Prod.mk.inj whole
  simp only [some, Bool.false_eq_true, if_false, stops.places?, Option.elim_none, stops.exponent?,
    List.length_map, Nat.not_lt.mpr short, digitsValue_toDigits]

theorem scalar_digit {c : Char} (digit : c.isDigit = true) (t : Text) :
    scalar (.char c :: t) = magnitude (.char c :: t) false (.char c :: t) := by
  have other (d : Char) (start : Text) (letter : d.isDigit = false) :
      Text.dropStart? (.char d :: start) (.char c :: t) = none := by
    refine if_neg fun same => ?_
    rw [CodePoint.char.inj same, digit] at letter
    cases letter
  have words : Text.dropStart? (Text.ofString "null") (.char c :: t) = none ∧
      Text.dropStart? (Text.ofString "true") (.char c :: t) = none ∧
      Text.dropStart? (Text.ofString "false") (.char c :: t) = none ∧
      Text.dropStart? (Text.ofString "NaN") (.char c :: t) = none ∧
      Text.dropStart? (Text.ofString "Infinity") (.char c :: t) = none ∧
      Text.dropStart? (Text.ofString "-Infinity") (.char c :: t) = none :=
    ⟨other 'n' _ rfl, other 't' _ rfl, other 'f' _ rfl, other 'N' _ rfl, other 'I' _ rfl,
      other '-' _ rfl⟩
  simp only [scalar, words]
  split
  · next minus =>
    rw [CodePoint.char.inj (List.cons.inj minus).1] at digit
    cases digit
  · rfl

theorem scalar_minus {c : Char} (digit : c.isDigit = true) (t : Text) :
    scalar (.char '-' :: .char c :: t) =
      magnitude (.char '-' :: .char c :: t) true (.char c :: t) := by
  have infinity : Text.dropStart? (Text.ofString "-Infinity") (.char '-' :: .char c :: t) = none := by
    change (if CodePoint.char 'I' = .char c then _ else _) = _
    refine if_neg fun same => ?_
    rw [← CodePoint.char.inj same] at digit
    cases digit
  have words : Text.dropStart? (Text.ofString "null") (.char '-' :: .char c :: t) = none ∧
      Text.dropStart? (Text.ofString "true") (.char '-' :: .char c :: t) = none ∧
      Text.dropStart? (Text.ofString "false") (.char '-' :: .char c :: t) = none ∧
      Text.dropStart? (Text.ofString "NaN") (.char '-' :: .char c :: t) = none ∧
      Text.dropStart? (Text.ofString "Infinity") (.char '-' :: .char c :: t) = none :=
    ⟨rfl, rfl, rfl, rfl, rfl⟩
  simp only [scalar, words, infinity]

theorem decimal_first (n : Nat) : ∃ c t, decimal n = .char c :: t ∧ c.isDigit = true := by
  have length := Nat.length_toDigits_pos (b := 10) (n := n)
  cases digits : Nat.toDigits 10 n with
  | nil => simp [digits] at length
  | cons c t =>
    refine ⟨c, t.map .char, by rw [decimal, digits]; rfl, ?_⟩
    exact Nat.isDigit_of_mem_toDigits (by decide) (by decide) (digits ▸ List.mem_cons_self)

theorem scalar_ofInt {n : Int} {rest : Text}
    (short : (Nat.toDigits 10 n.natAbs).length ≤ maxIntegerDigits) (stops : Stops rest) :
    scalar (Text.ofInt n ++ rest) = .ok (.int n, rest) := by
  cases n with
  | ofNat n =>
    obtain ⟨c, t, shape, digit⟩ := decimal_first n
    have read := magnitude_decimal (n := n) (decimal n ++ rest) false short stops
    rw [ofInt_ofNat, shape, List.cons_append, scalar_digit digit, ← List.cons_append, ← shape, read]
    rfl
  | negSucc n =>
    obtain ⟨c, t, shape, digit⟩ := decimal_first (n + 1)
    have read :=
      magnitude_decimal (n := n + 1) (.char '-' :: (decimal (n + 1) ++ rest)) true short stops
    rw [ofInt_negSucc, shape, List.cons_append, List.cons_append, scalar_minus digit,
      ← List.cons_append, ← shape, read]
    rfl

end Json

/-! ## Values -/

namespace Value

mutual

/-- How many containers are within each other. -/
def depth : Value → Nat
  | list items => depthOfItems items + 1
  | object members => depthOfMembers members + 1
  | _ => 0

def depthOfItems : List Value → Nat
  | [] => 0
  | v :: rest => max v.depth (depthOfItems rest)

def depthOfMembers : List (Text × Value) → Nat
  | [] => 0
  | (_, v) :: rest => max v.depth (depthOfMembers rest)

end

end Value

namespace Json

mutual

/-- The value is one that is read again as it was written. -/
def isLossless : Value → Bool
  | .null => true
  | .bool _ => true
  | .int n => (Nat.toDigits 10 n.natAbs).length ≤ maxIntegerDigits
  | .float _ => false
  | .text t => !t.hasSurrogate
  | .bytes _ => false
  | .list items => areLossless items
  | .object members => decide (members.map (·.1)).Nodup && membersLossless members

def areLossless : List Value → Bool
  | [] => true
  | v :: rest => isLossless v && areLossless rest

def membersLossless : List (Text × Value) → Bool
  | [] => true
  | (name, v) :: rest => !name.hasSurrogate && isLossless v && membersLossless rest

end

theorem value_scalar (fuel depth : Nat) {c : CodePoint} (t : Text) (quote : c ≠ .char '"')
    (bracket : c ≠ .char '[') (brace : c ≠ .char '\x7b') :
    value (fuel + 1) depth (c :: t) = scalar (c :: t) := by
  rw [value]
  · rintro _ ⟨⟩
    exact quote rfl
  · rintro _ ⟨⟩
    exact bracket rfl
  · rintro _ ⟨⟩
    exact brace rfl

/-- The code point can begin a value, wherever one is expected. -/
def Begins (c : CodePoint) : Prop :=
  isSpace c = false ∧ c ≠ .char ']' ∧ c ≠ .char '\x7d' ∧ c ≠ .char '\uFEFF'

instance (c : CodePoint) : Decidable (Begins c) := inferInstanceAs (Decidable (_ ∧ _ ∧ _ ∧ _))

theorem begins_of_isDigit {c : CodePoint} (digit : c.isDigit = true) : Begins c := by
  have plain := isPlain_of_isDigit digit
  simp only [isPlain, Bool.and_eq_true, decide_eq_true_eq] at plain
  obtain ⟨⟨⟨_, bracket⟩, _⟩, brace⟩ := plain
  refine ⟨?_, bracket, brace, by rintro rfl; cases digit⟩
  cases space : isSpace c with
  | false => rfl
  | true =>
    simp only [isSpace, Bool.or_eq_true, decide_eq_true_eq] at space
    rcases space with ((rfl | rfl) | rfl) | rfl <;> cases digit

theorem write_head {v : Value} (lossless : isLossless v = true) :
    ∃ c t, write v = c :: t ∧ Begins c := by
  cases v with
  | null => exact ⟨_, _, rfl, by decide⟩
  | bool b => cases b <;> exact ⟨_, _, rfl, by decide⟩
  | int n =>
    cases n with
    | ofNat n =>
      obtain ⟨c, t, shape, digit⟩ := decimal_first n
      exact ⟨.char c, t, by rw [write, ofInt_ofNat, shape], begins_of_isDigit digit⟩
    | negSucc n => exact ⟨_, _, ofInt_negSucc n, by decide⟩
  | float x => cases lossless
  | text t => exact ⟨_, _, rfl, by decide⟩
  | bytes octets => cases lossless
  | list items => exact ⟨_, _, rfl, by decide⟩
  | object members => exact ⟨_, _, rfl, by decide⟩

theorem skipSpace_cons {c : CodePoint} (begins : Begins c) (t : Text) :
    skipSpace (c :: t) = c :: t :=
  List.dropWhile_cons_of_neg (by simp [begins.1])

theorem value_ofInt {n : Int} {fuel depth : Nat} {rest : Text}
    (short : (Nat.toDigits 10 n.natAbs).length ≤ maxIntegerDigits) (stops : Stops rest) :
    value (fuel + 1) depth (Text.ofInt n ++ rest) = .ok (.int n, rest) := by
  rw [← scalar_ofInt short stops]
  cases n with
  | ofNat n =>
    obtain ⟨c, t, shape, digit⟩ := decimal_first n
    have plain := isPlain_of_isDigit (c := .char c) digit
    simp only [isPlain, Bool.and_eq_true, decide_eq_true_eq] at plain
    rw [ofInt_ofNat, shape]
    exact value_scalar fuel depth _ plain.1.1.1.1 plain.1.1.1.2 plain.1.2
  | negSucc n =>
    rw [ofInt_negSucc]
    exact value_scalar fuel depth _ (by decide) (by decide) (by decide)

theorem write_list_append (items : List Value) (rest : Text) :
    write (.list items) ++ rest = .char '[' :: (writeItems items ++ .char ']' :: rest) := by
  simp [write]

theorem length_write_list (items : List Value) :
    (write (.list items)).length = (writeItems items).length + 2 := by
  simp [write]

theorem write_object_append (members : List (Text × Value)) (rest : Text) :
    write (.object members) ++ rest =
      .char '\x7b' :: (writeMembers members ++ .char '\x7d' :: rest) := by
  simp [write]

theorem length_write_object (members : List (Text × Value)) :
    (write (.object members)).length = (writeMembers members).length + 2 := by
  simp [write]

theorem writeItems_cons (v : Value) {items : List Value} (more : items ≠ []) :
    writeItems (v :: items) = write v ++ .char ',' :: .char ' ' :: writeItems items := by
  cases items with
  | nil => exact absurd rfl more
  | cons w items => simp [writeItems, Text.ofString]

theorem writeItems_head {v : Value} (lossless : isLossless v = true) (items : List Value) :
    ∃ c t, writeItems (v :: items) = c :: t ∧ Begins c := by
  obtain ⟨c, t, shape, begins⟩ := write_head lossless
  cases items with
  | nil => exact ⟨c, t, by rw [writeItems, shape], begins⟩
  | cons w items =>
    exact ⟨c, _, by rw [writeItems_cons v (List.cons_ne_nil _ _), shape]; rfl, begins⟩

/-- The text of a member: its name, and what follows that. -/
def writeMember (name : Text) (v : Value) : Text :=
  .char '"' :: (name.flatMap escaped ++ .char '"' :: .char ':' :: .char ' ' :: write v)

theorem writeMembers_one (name : Text) (v : Value) :
    writeMembers [(name, v)] = writeMember name v := by
  simp [writeMembers, writeMember, writeText, Text.ofString]

theorem writeMembers_cons (name : Text) (v : Value) {members : List (Text × Value)}
    (more : members ≠ []) : writeMembers ((name, v) :: members) =
      writeMember name v ++ .char ',' :: .char ' ' :: writeMembers members := by
  cases members with
  | nil => exact absurd rfl more
  | cons member members => simp [writeMembers, writeMember, writeText, Text.ofString]

theorem writeMembers_head (name : Text) (v : Value) (members : List (Text × Value)) :
    ∃ t, writeMembers ((name, v) :: members) = .char '"' :: t := by
  cases members with
  | nil => exact ⟨_, writeMembers_one name v⟩
  | cons member members => exact ⟨_, writeMembers_cons name v (List.cons_ne_nil _ _)⟩

theorem length_write_lt (name : Text) (v : Value) :
    (write v).length < (writeMember name v).length := by
  simp only [writeMember, List.length_cons, List.length_append]
  omega

theorem notMem_keys_of_nodup {name : Text} {v : Value} {done later : List (Text × Value)}
    (distinct : ((done ++ (name, v) :: later).map (·.1)).Nodup) : name ∉ done.map (·.1) := by
  rw [List.map_append, List.nodup_append] at distinct
  exact fun old => distinct.2.2 name old name (List.mem_cons_self ..) rfl

/-- What is read behind a member. -/
def behindMember (fuel depth : Nat) (done : List (Text × Value)) (rest : Text) :
    Except Fault (Value × Text) :=
  match skipSpace rest with
  | .char '\x7d' :: rest => .ok (.object done, rest)
  | .char ',' :: rest => members fuel depth done (skipSpace rest)
  | rest => .error (.flawed .expectedComma rest)

/-- Once its first member is read, an object goes on with what follows that. -/
theorem members_member {name : Text} (whole : name.hasSurrogate = false) {v : Value}
    (lossless : isLossless v = true) {fuel depth : Nat} (done : List (Text × Value)) {rest : Text}
    (read : value fuel depth (write v ++ rest) = .ok (v, rest)) :
    members (fuel + 1) depth done (writeMember name v ++ rest) =
      behindMember fuel depth (ControlPlaneMetrics.write name v done) rest := by
  obtain ⟨c, t, head, begins⟩ := write_head lossless
  have colon (t : Text) : skipSpace (.char ':' :: t) = .char ':' :: t := rfl
  have space : skipSpace (.char ' ' :: (write v ++ rest)) = write v ++ rest := by
    rw [head, List.cons_append]
    exact skipSpace_cons begins _
  simp only [writeMember, List.cons_append, List.append_assoc, members, string_written _ whole, colon,
    space, read]
  rfl

mutual

/-- A value is read from its text, whatever comes after it. -/
theorem value_write : ∀ (v : Value) (fuel depth : Nat) (rest : Text), isLossless v = true →
    v.depth ≤ depth → 2 * (write v).length ≤ fuel → Stops rest →
    value fuel depth (write v ++ rest) = .ok (v, rest)
  | .null, fuel, depth, rest, _, _, room, _ => by
    obtain ⟨left, rfl⟩ := Nat.exists_eq_add_of_le' (Nat.le_trans (by decide : 1 ≤ _) room)
    rfl
  | .bool b, fuel, depth, rest, _, _, room, _ => by
    have some : 1 ≤ 2 * (write (.bool b)).length := by cases b <;> decide
    obtain ⟨left, rfl⟩ := Nat.exists_eq_add_of_le' (Nat.le_trans some room)
    cases b <;> rfl
  | .int n, fuel, depth, rest, lossless, _, room, stops => by
    obtain ⟨c, t, shape, _⟩ := write_head lossless
    rw [shape, List.length_cons] at room
    obtain ⟨left, rfl⟩ : ∃ left, fuel = left + 1 := ⟨fuel - 1, by omega⟩
    exact value_ofInt (by simpa [isLossless] using lossless) stops
  | .float x, _, _, _, lossless, _, _, _ => by cases lossless
  | .text t, fuel, depth, rest, lossless, _, room, _ => by
    have whole : t.hasSurrogate = false := by simpa [isLossless] using lossless
    have shape : write (.text t) ++ rest = .char '"' :: (t.flatMap escaped ++ .char '"' :: rest) := by
      simp [write, writeText]
    obtain ⟨left, rfl⟩ : ∃ left, fuel = left + 1 := by
      rw [write, writeText, List.length_append] at room
      exact ⟨fuel - 1, by simp only [List.length_cons] at room; omega⟩
    rw [shape, value]
    simp only [string_written rest whole]
  | .bytes octets, _, _, _, lossless, _, _, _ => by cases lossless
  | .list [], fuel, depth, rest, _, within, room, _ => by
    obtain ⟨left, rfl⟩ := Nat.exists_eq_add_of_le' (Nat.le_trans (by decide : 1 ≤ _) room)
    obtain ⟨inner, rfl⟩ := Nat.exists_eq_add_of_le' (Nat.le_trans (by decide : 1 ≤ _) within)
    rfl
  | .list (v :: items), fuel, depth, rest, lossless, within, room, _ => by
    have length := length_write_list (v :: items)
    obtain ⟨left, rfl⟩ : ∃ left, fuel = left + 1 := ⟨fuel - 1, by omega⟩
    obtain ⟨inner, rfl⟩ : ∃ inner, depth = inner + 1 :=
      ⟨depth - 1, by rw [Value.depth] at within; omega⟩
    have each : areLossless (v :: items) = true := lossless
    obtain ⟨c, t, head, begins⟩ :=
      writeItems_head (Bool.and_eq_true_iff.mp each).1 items
    have read := elements_write (v :: items) [] left inner rest (List.cons_ne_nil _ _) each
      (Nat.le_of_succ_le_succ within) (by omega)
    rw [head, List.cons_append] at read
    rw [write_list_append, head, List.cons_append, value]
    simp only [skipSpace_cons begins]
    split
    · next closed => exact absurd (List.cons.inj closed).1 begins.2.1
    · exact read
  | .object [], fuel, depth, rest, _, within, room, _ => by
    obtain ⟨left, rfl⟩ := Nat.exists_eq_add_of_le' (Nat.le_trans (by decide : 1 ≤ _) room)
    obtain ⟨inner, rfl⟩ := Nat.exists_eq_add_of_le' (Nat.le_trans (by decide : 1 ≤ _) within)
    rfl
  | .object ((name, v) :: members), fuel, depth, rest, lossless, within, room, _ => by
    have length := length_write_object ((name, v) :: members)
    obtain ⟨left, rfl⟩ : ∃ left, fuel = left + 1 := ⟨fuel - 1, by omega⟩
    obtain ⟨inner, rfl⟩ : ∃ inner, depth = inner + 1 :=
      ⟨depth - 1, by rw [Value.depth] at within; omega⟩
    obtain ⟨distinct, each⟩ := Bool.and_eq_true_iff.mp lossless
    obtain ⟨t, head⟩ := writeMembers_head name v members
    have read := members_write ((name, v) :: members) [] left inner rest
      (List.cons_ne_nil _ _) (of_decide_eq_true distinct) each
      (Nat.le_of_succ_le_succ within) (by omega)
    rw [head, List.cons_append] at read
    rw [write_object_append, head, List.cons_append, value]
    simp only [skipSpace_cons (show Begins (.char '"') by decide)]
    exact read

theorem elements_write : ∀ (items done : List Value) (fuel depth : Nat) (rest : Text),
    items ≠ [] → areLossless items = true → Value.depthOfItems items ≤ depth →
    2 * (writeItems items).length + 1 ≤ fuel →
    elements fuel depth done (writeItems items ++ .char ']' :: rest) =
      .ok (.list (done.reverse ++ items), rest)
  | [], _, _, _, _, more, _, _, _ => absurd rfl more
  | [v], done, fuel, depth, rest, _, lossless, within, room => by
    obtain ⟨first, _⟩ := Bool.and_eq_true_iff.mp lossless
    obtain ⟨left, rfl⟩ := Nat.exists_eq_add_of_le' (Nat.le_trans (Nat.le_add_left 1 _) room)
    have read := value_write v left depth (.char ']' :: rest) first
      (Nat.le_trans (Nat.le_max_left _ _) within) (Nat.le_of_succ_le_succ room)
      (.cons _ (.inr (.inl rfl)))
    have ends : skipSpace (.char ']' :: rest) = .char ']' :: rest := rfl
    simp only [writeItems, elements, read, ends, List.reverse_cons]
  | v :: w :: items, done, fuel, depth, rest, _, lossless, within, room => by
    obtain ⟨first, others⟩ := Bool.and_eq_true_iff.mp lossless
    have text := writeItems_cons v (List.cons_ne_nil w items)
    have length := congrArg List.length text
    simp only [List.length_append, List.length_cons] at length
    obtain ⟨left, rfl⟩ := Nat.exists_eq_add_of_le' (Nat.le_trans (Nat.le_add_left 1 _) room)
    have inner : max v.depth (Value.depthOfItems (w :: items)) ≤ depth := within
    have read := value_write v left depth
      (.char ',' :: .char ' ' :: (writeItems (w :: items) ++ .char ']' :: rest)) first
      (by omega) (by omega) (.cons _ (.inl rfl))
    have later := elements_write (w :: items) (v :: done) left depth rest (List.cons_ne_nil _ _)
      others (by omega) (by omega)
    obtain ⟨c, t, head, begins⟩ := writeItems_head (Bool.and_eq_true_iff.mp others).1 items
    have comma (t : Text) : skipSpace (.char ',' :: t) = .char ',' :: t := rfl
    have space (t : Text) : skipSpace (.char ' ' :: t) = skipSpace t := rfl
    have next : skipSpace (writeItems (w :: items) ++ .char ']' :: rest) =
        writeItems (w :: items) ++ .char ']' :: rest := by
      rw [head, List.cons_append, skipSpace_cons begins]
    rw [text, List.append_assoc, List.cons_append, List.cons_append, elements]
    simp only [read, comma, space, next, later, List.reverse_cons, List.append_assoc,
      List.singleton_append]

theorem members_write : ∀ (members done : List (Text × Value)) (fuel depth : Nat) (rest : Text),
    members ≠ [] →
    ((done ++ members).map (·.1)).Nodup → membersLossless members = true →
    Value.depthOfMembers members ≤ depth → 2 * (writeMembers members).length + 1 ≤ fuel →
    Json.members fuel depth done (writeMembers members ++ .char '\x7d' :: rest) =
      .ok (.object (done ++ members), rest)
  | [], _, _, _, _, more, _, _, _, _ => absurd rfl more
  | [(name, v)], done, fuel, depth, rest, _, distinct, lossless, within, room => by
    obtain ⟨here, _⟩ := Bool.and_eq_true_iff.mp lossless
    obtain ⟨whole, first⟩ := Bool.and_eq_true_iff.mp here
    have new := notMem_keys_of_nodup distinct
    have length := length_write_lt name v
    rw [writeMembers_one] at room ⊢
    obtain ⟨left, rfl⟩ := Nat.exists_eq_add_of_le' (Nat.le_trans (Nat.le_add_left 1 _) room)
    have read := value_write v left depth (.char '\x7d' :: rest) first
      (Nat.le_trans (Nat.le_max_left _ _) within) (by omega) (.cons _ (.inr (.inr rfl)))
    have ends : skipSpace (.char '\x7d' :: rest) = .char '\x7d' :: rest := rfl
    rw [members_member (by simpa using whole) first done read, behindMember, ends, write_new v new]
    rfl
  | (name, v) :: member :: members, done, fuel, depth, rest, _, distinct, lossless, within, room => by
    obtain ⟨here, others⟩ := Bool.and_eq_true_iff.mp lossless
    obtain ⟨whole, first⟩ := Bool.and_eq_true_iff.mp here
    have new := notMem_keys_of_nodup distinct
    have length := length_write_lt name v
    rw [writeMembers_cons name v (List.cons_ne_nil member members)] at room ⊢
    simp only [List.length_append, List.length_cons] at room
    obtain ⟨left, rfl⟩ := Nat.exists_eq_add_of_le' (Nat.le_trans (Nat.le_add_left 1 _) room)
    have inner : max v.depth (Value.depthOfMembers (member :: members)) ≤ depth := within
    have read := value_write v left depth
      (.char ',' :: .char ' ' :: (writeMembers (member :: members) ++ .char '\x7d' :: rest)) first
      (by omega) (by omega) (.cons _ (.inl rfl))
    have later := members_write (member :: members) (done ++ [(name, v)]) left depth rest
      (List.cons_ne_nil _ _)
      (by simpa using distinct) others (by omega) (by omega)
    have comma (t : Text) : skipSpace (.char ',' :: t) = .char ',' :: t := rfl
    obtain ⟨t, head⟩ := writeMembers_head member.1 member.2 members
    have next : skipSpace (.char ' ' :: (writeMembers (member :: members) ++ .char '\x7d' :: rest)) =
        writeMembers (member :: members) ++ .char '\x7d' :: rest := by
      rw [show member :: members = (member.1, member.2) :: members from rfl, head]
      rfl
    rw [List.append_assoc, List.cons_append, List.cons_append,
      members_member (by simpa using whole) first done read, behindMember, comma]
    simp only [next, write_new v new, later, List.append_assoc, List.singleton_append]

end

/-- A value is read from its whole text. -/
theorem parseWithin_write {v : Value} {limit : Nat} (lossless : isLossless v = true)
    (within : v.depth ≤ limit) : parseWithin limit (write v) = .ok v := by
  obtain ⟨c, t, head, begins⟩ := write_head lossless
  have read := value_write v (2 * (write v).length + 2) limit [] lossless within
    (by omega) .nil
  have start : skipSpace (write v) = write v := by rw [head, skipSpace_cons begins]
  rw [List.append_nil] at read
  simp only [parseWithin, start, read]
  rfl

theorem parse_write {v : Value} (lossless : isLossless v = true) (within : v.depth ≤ assumedDepth) :
    parse (write v) = .ok v := by
  obtain ⟨c, t, head, begins⟩ := write_head lossless
  have read := parseWithin_write lossless within
  rw [head] at read ⊢
  unfold parse
  split
  · next mark => exact absurd (List.cons.inj mark).1 begins.2.2.2
  · exact read

end Json

end ControlPlaneMetrics
