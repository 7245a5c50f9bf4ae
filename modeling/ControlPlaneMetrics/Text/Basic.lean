/-!
Text as the service handles it: a list of Unicode code points. JSON and YAML
escapes can name one half of a surrogate pair on its own, and such a half is
carried through labels, messages and log lines, so a code point is either a
scalar value or an unpaired surrogate.
-/
namespace ControlPlaneMetrics

inductive CodePoint where
  | char (c : Char)
  /-- The code point `0xD800 + index`. -/
  | surrogate (index : Fin 2048)
  deriving DecidableEq, Inhabited

namespace CodePoint

def toNat : CodePoint → Nat
  | char c => c.toNat
  | surrogate index => 0xD800 + index.val

/-- Every number below `0x110000` is a code point. -/
def ofNat? (n : Nat) : Option CodePoint :=
  if h : n.isValidChar then some (char (Char.ofNatAux n h))
  else if h : 0xD800 ≤ n ∧ n < 0xE000 then some (surrogate ⟨n - 0xD800, by omega⟩)
  else none

/-- As `ofNat?`, with U+FFFD for numbers that are no code point. -/
def ofNat (n : Nat) : CodePoint := (ofNat? n).getD (char '\uFFFD')

instance : Coe Char CodePoint := ⟨char⟩

def isSurrogate : CodePoint → Bool
  | char _ => false
  | surrogate _ => true

/-- The character, unless the code point is half of a pair. -/
def scalar? : CodePoint → Option Char
  | char c => some c
  | surrogate _ => none

/-- First halves lie in `0xD800` to `0xDBFF`, second halves in `0xDC00` to `0xDFFF`. -/
def isHighSurrogate : CodePoint → Bool
  | char _ => false
  | surrogate index => index.val < 0x400

def isLowSurrogate : CodePoint → Bool
  | char _ => false
  | surrogate index => 0x400 ≤ index.val

/-- The scalar value that a high and a low half spell together. -/
def join (high low : CodePoint) : CodePoint :=
  ofNat (0x10000 + (high.toNat - 0xD800) * 0x400 + (low.toNat - 0xDC00))

def isDigit : CodePoint → Bool
  | char c => c.isDigit
  | surrogate _ => false

/-- The value of an ASCII digit. -/
def digit? : CodePoint → Option Nat
  | char c => if c.isDigit then some (c.toNat - 48) else none
  | surrogate _ => none

/-- The value of an ASCII hexadecimal digit of either case. -/
def hexDigit? : CodePoint → Option Nat
  | char c =>
    if c.isDigit then some (c.toNat - 48)
    else if 'a' ≤ c ∧ c ≤ 'f' then some (c.toNat - 87)
    else if 'A' ≤ c ∧ c ≤ 'F' then some (c.toNat - 55)
    else none
  | surrogate _ => none

end CodePoint

abbrev Text := List CodePoint

namespace Text

def ofString (s : String) : Text := s.toList.map .char

instance : Coe String Text := ⟨ofString⟩

/-- The text as a string of scalar values, if it holds no unpaired surrogate. -/
def toString? (t : Text) : Option String :=
  (t.mapM CodePoint.scalar?).map String.ofList

/-- The text without its unpaired surrogates. -/
def scalars (t : Text) : List Char := t.filterMap CodePoint.scalar?

def hasSurrogate (t : Text) : Bool := t.any CodePoint.isSurrogate

theorem hasSurrogate_append (s t : Text) :
    (s ++ t).hasSurrogate = (s.hasSurrogate || t.hasSurrogate) := List.any_append

theorem hasSurrogate_cons (c : Char) (t : Text) :
    hasSurrogate (.char c :: t) = t.hasSurrogate := rfl

theorem hasSurrogate_chars (s : List Char) : hasSurrogate (s.map .char) = false := by
  simp [hasSurrogate, CodePoint.isSurrogate]

/-- Decimal text of a natural number. -/
def ofNat (n : Nat) : Text := ofString (toString n)

def ofInt (n : Int) : Text := ofString (toString n)

/-- Lower-case hexadecimal digits of `n`, padded with zeros to `width`. -/
def hex (width n : Nat) : Text :=
  let digits := (Nat.toDigits 16 n).map CodePoint.char
  List.replicate (width - digits.length) (.char '0') ++ digits

/-- The parts joined with `separator` between them. -/
def joinWith (separator : Text) : List Text → Text
  | [] => []
  | [t] => t
  | t :: rest => t ++ separator ++ joinWith separator rest

/-- What follows `start`, if the text begins with it. -/
def dropStart? : (start t : Text) → Option Text
  | [], t => some t
  | c :: start, d :: t => if c = d then dropStart? start t else none
  | _ :: _, [] => none

theorem eq_append_of_dropStart? {start t rest : Text} (found : dropStart? start t = some rest) :
    t = start ++ rest := by
  induction start generalizing t with
  | nil => simpa [dropStart?] using found
  | cons c start ih =>
    cases t with
    | nil => cases found
    | cons d t =>
      simp only [dropStart?] at found
      split at found
      · next same => rw [same, List.cons_append, ← ih found]
      · cases found

theorem dropStart?_append (start rest : Text) : dropStart? start (start ++ rest) = some rest := by
  induction start with
  | nil => rfl
  | cons c start ih => simpa [dropStart?] using ih

def startsWith (t start : Text) : Bool := (dropStart? start t).isSome

/-- Whether `part` occurs somewhere in the text. -/
def containsText (part : Text) : Text → Bool
  | [] => part.isEmpty
  | c :: t => startsWith (c :: t) part || containsText part t

/-- The text split at every occurrence of `mark`, which is in no part. -/
def splitOnMark (mark : CodePoint) : Text → List Text
  | [] => [[]]
  | c :: t =>
    if c = mark then [] :: splitOnMark mark t
    else match splitOnMark mark t with
      | [] => [[c]]
      | first :: rest => (c :: first) :: rest

theorem splitOnMark_append {mark : CodePoint} {t : Text} (absent : mark ∉ t) (rest : Text) :
    splitOnMark mark (t ++ mark :: rest) = t :: splitOnMark mark rest := by
  induction t with
  | nil => simp [splitOnMark]
  | cons c t ih =>
    rw [List.mem_cons, not_or] at absent
    simp [splitOnMark, Ne.symm absent.1, ih absent.2]

/-- Parts that each end with the mark are found again, with nothing after the last one. -/
theorem splitOnMark_flatMap {mark : CodePoint} {parts : List Text}
    (absent : ∀ t ∈ parts, mark ∉ t) :
    splitOnMark mark (parts.flatMap (· ++ [mark])) = parts ++ [[]] := by
  induction parts with
  | nil => rfl
  | cons t rest ih =>
    obtain ⟨first, later⟩ := List.forall_mem_cons.mp absent
    rw [List.flatMap_cons, List.append_assoc, List.singleton_append, splitOnMark_append first,
      ih later, List.cons_append]

/-- Line ends written as carriage return, or carriage return and line feed, become one line feed. -/
def unifyLineEnds (t : Text) : Text := go [] t
where
  go (done : Text) : Text → Text
    | [] => done.reverse
    | .char '\r' :: .char '\n' :: t => go (.char '\n' :: done) t
    | .char '\r' :: t => go (.char '\n' :: done) t
    | c :: t => go (c :: done) t

/-- Both ends without code points of the given class. -/
def trim (blank : CodePoint → Bool) (t : Text) : Text :=
  ((t.dropWhile blank).reverse.dropWhile blank).reverse

end Text

end ControlPlaneMetrics
