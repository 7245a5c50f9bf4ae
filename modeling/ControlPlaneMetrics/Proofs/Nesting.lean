import ControlPlaneMetrics.Json.Reader

/-!
How deep a JSON text is nested. Outside of strings, brackets and braces open and close containers,
whether or not the rest of the text makes sense. A reader that may have as many containers open as
the text has at most does not give up for want of them.
-/
namespace ControlPlaneMetrics.Json

/-- Where in a text a look at its brackets is. -/
inductive Place where
  | outside
  /-- Inside of a string. -/
  | quoted
  /-- Inside of a string, after a backslash. -/
  | escaped

/-- The most containers that are open at once in the rest of a text, if `opened` are open where it
begins. -/
def deepest : (opened : Nat) → Place → Text → Nat
  | opened, _, [] => opened
  | opened, .outside, c :: rest =>
    if c = .char '[' ∨ c = .char '\x7b' then deepest (opened + 1) .outside rest
    else if c = .char ']' ∨ c = .char '\x7d' then max opened (deepest (opened - 1) .outside rest)
    else deepest opened (if c = .char '"' then .quoted else .outside) rest
  | opened, .quoted, c :: rest =>
    deepest opened (if c = .char '"' then .outside else if c = .char '\\' then .escaped
      else .quoted) rest
  | opened, .escaped, _ :: rest => deepest opened .quoted rest

/-- The most containers that are open at once in a text. -/
def nesting (t : Text) : Nat := deepest 0 .outside t

example : nesting (Text.ofString "[[1], \"[[[\"]") = 2 := by decide

theorem opened_le_deepest (opened : Nat) (place : Place) (t : Text) :
    opened ≤ deepest opened place t := by
  fun_induction deepest opened place t with
  | case1 => exact Nat.le_refl _
  | case2 _ _ _ _ ih => exact Nat.le_of_succ_le ih
  | case3 => exact Nat.le_max_left _ _
  | case4 _ _ _ _ _ ih => exact ih
  | case5 _ _ _ ih => exact ih
  | case6 _ _ _ ih => exact ih

/-! ## What opens and closes nothing -/

/-- Outside of strings the code point opens and closes nothing. -/
def isPlain (c : CodePoint) : Bool :=
  c ≠ .char '"' && c ≠ .char '[' && c ≠ .char ']' && c ≠ .char '\x7b' && c ≠ .char '\x7d'

theorem deepest_plain {c : CodePoint} (plain : isPlain c = true) (opened : Nat) (rest : Text) :
    deepest opened .outside (c :: rest) = deepest opened .outside rest := by
  simp only [isPlain, Bool.and_eq_true, decide_eq_true_eq] at plain
  obtain ⟨⟨⟨⟨quote, bracket⟩, bracket'⟩, brace⟩, brace'⟩ := plain
  simp [deepest, quote, bracket, bracket', brace, brace']

/-- The second text is what is left of the first after some plain code points. -/
def Skips (t rest : Text) : Prop :=
  ∃ skipped, t = skipped ++ rest ∧ ∀ c ∈ skipped, isPlain c = true

namespace Skips

theorem refl (t : Text) : Skips t t := ⟨[], rfl, by simp⟩

theorem trans {a b c : Text} (first : Skips a b) (second : Skips b c) : Skips a c := by
  obtain ⟨skipped, rfl, plain⟩ := first
  obtain ⟨skipped', rfl, plain'⟩ := second
  refine ⟨skipped ++ skipped', (List.append_assoc ..).symm, fun c member => ?_⟩
  rcases List.mem_append.mp member with member | member
  · exact plain c member
  · exact plain' c member

theorem cons {c : CodePoint} {t rest : Text} (plain : isPlain c = true) (skips : Skips t rest) :
    Skips (c :: t) rest :=
  trans ⟨[c], rfl, by simpa using plain⟩ skips

theorem dropWhile (t : Text) {p : CodePoint → Bool}
    (plain : ∀ c, p c = true → isPlain c = true) : Skips t (t.dropWhile p) := by
  refine ⟨t.takeWhile p, List.takeWhile_append_dropWhile.symm, fun c member => ?_⟩
  exact plain c (List.all_eq_true.mp List.all_takeWhile c member)

theorem deepest {t rest : Text} (skips : Skips t rest) (opened : Nat) :
    deepest opened .outside t = Json.deepest opened .outside rest := by
  obtain ⟨skipped, rfl, plain⟩ := skips
  induction skipped with
  | nil => rfl
  | cons c skipped ih =>
    obtain ⟨here, others⟩ := List.forall_mem_cons.mp plain
    rw [List.cons_append, deepest_plain here, ih others]

end Skips

theorem isPlain_of_isDigit {c : CodePoint} (digit : c.isDigit = true) : isPlain c = true := by
  simp only [isPlain, Bool.and_eq_true, decide_eq_true_eq]
  refine ⟨⟨⟨⟨?_, ?_⟩, ?_⟩, ?_⟩, ?_⟩ <;>
    · rintro rfl
      exact absurd digit (by decide)

theorem isPlain_of_isSpace {c : CodePoint} (space : isSpace c = true) : isPlain c = true := by
  simp only [isSpace, Bool.or_eq_true, decide_eq_true_eq] at space
  rcases space with ((rfl | rfl) | rfl) | rfl <;> decide

theorem skips_skipSpace (t : Text) : Skips t (skipSpace t) :=
  Skips.dropWhile t fun _ => isPlain_of_isSpace

theorem skips_takeDigits (t : Text) : Skips t (takeDigits t).2 :=
  Skips.dropWhile t fun _ => isPlain_of_isDigit

theorem skips_takeSign (t : Text) : Skips t (takeSign t).2 := by
  unfold takeSign
  split
  · exact .cons (by decide) (.refl _)
  · exact .cons (by decide) (.refl _)
  · exact .refl _

theorem skips_places? {t rest : Text} (found : places? t = some (digits, rest)) : Skips t rest := by
  unfold places? at found
  split at found
  · next after =>
    have skips := skips_takeDigits after
    split at found
    · cases found
    · cases found
      exact .cons (by decide) skips
  · cases found

theorem skips_exponent? {t rest : Text} (found : exponent? t = some (power, rest)) :
    Skips t rest := by
  unfold exponent? at found
  split at found
  · next e after =>
    split at found
    · next letter =>
      have plain : isPlain (.char e) = true := by rcases letter with rfl | rfl <;> decide
      have skips := (skips_takeSign after).trans (skips_takeDigits (takeSign after).2)
      rcases signed : takeSign after with ⟨below, unsigned⟩
      rcases taken : takeDigits unsigned with ⟨_ | ⟨d, digits⟩, left⟩
      · simp [signed, taken] at found
      · simp only [signed, taken, Option.some.injEq, Prod.mk.injEq] at found skips
        exact .cons plain (found.2 ▸ skips)
    · cases found
  · cases found

theorem skips_magnitude {start t rest : Text}
    (found : magnitude start negative t = .ok (v, rest)) : Skips t rest := by
  unfold magnitude at found
  split at found
  next digits left shape =>
  have skips : Skips t left := by
    split at shape
    · cases shape
      exact .cons (by decide) (.refl _)
    · have whole := skips_takeDigits t
      rwa [shape] at whole
  have afterPlaces : Skips left ((places? left).elim left (·.2)) := by
    cases places : places? left with
    | none => exact .refl left
    | some found => exact skips_places? places
  split at found
  · cases found
  split at found
  · split at found
    · cases found
    · cases found
      exact skips
  · cases power : exponent? ((places? left).elim left (·.2)) with
    | none =>
      simp only [power, Option.getD_none, Except.ok.injEq, Prod.mk.injEq] at found
      exact skips.trans (found.2 ▸ afterPlaces)
    | some exponent =>
      simp only [power, Option.getD_some, Except.ok.injEq, Prod.mk.injEq] at found
      exact (skips.trans afterPlaces).trans (found.2 ▸ skips_exponent? power)

theorem skips_scalar {t rest : Text} (found : scalar t = .ok (v, rest)) : Skips t rest := by
  have word (name : String) (plain : ∀ c ∈ Text.ofString name, isPlain c = true) {left : Text}
      (dropped : Text.dropStart? (Text.ofString name) t = some left) : Skips t left :=
    ⟨Text.ofString name, Text.eq_append_of_dropStart? dropped, plain⟩
  unfold scalar at found
  split at found
  · next dropped =>
    cases found
    exact word "null" (by decide) dropped
  split at found
  · next dropped =>
    cases found
    exact word "true" (by decide) dropped
  split at found
  · next dropped =>
    cases found
    exact word "false" (by decide) dropped
  split at found
  · next dropped =>
    cases found
    exact word "NaN" (by decide) dropped
  split at found
  · next dropped =>
    cases found
    exact word "Infinity" (by decide) dropped
  split at found
  · next dropped =>
    cases found
    exact word "-Infinity" (by decide) dropped
  split at found
  · exact .cons (by decide) (skips_magnitude found)
  · exact skips_magnitude found

/-! ## Strings -/

theorem deepest_quoted {c : CodePoint} (quote : c ≠ .char '"') (escape : c ≠ .char '\\')
    (opened : Nat) (rest : Text) : deepest opened .quoted (c :: rest) = deepest opened .quoted rest := by
  simp [deepest, quote, escape]

theorem deepest_escaped (opened : Nat) (c : CodePoint) (rest : Text) :
    deepest opened .quoted (.char '\\' :: c :: rest) = deepest opened .quoted rest := by
  simp [deepest]

theorem deepest_hexDigit {c : CodePoint} (digit : c.hexDigit? = some n) (opened : Nat)
    (rest : Text) : deepest opened .quoted (c :: rest) = deepest opened .quoted rest := by
  refine deepest_quoted ?_ ?_ opened rest <;>
    · rintro rfl
      exact absurd digit (by simp [CodePoint.hexDigit?, Char.isDigit])

theorem deepest_hexUnit? {t rest : Text} (found : hexUnit? t = some (n, rest)) (opened : Nat) :
    deepest opened .quoted t = deepest opened .quoted rest := by
  unfold hexUnit? at found
  split at found
  · split at found
    · next first second third fourth =>
      cases found
      rw [deepest_hexDigit first, deepest_hexDigit second, deepest_hexDigit third,
        deepest_hexDigit fourth]
    · cases found
  · cases found

theorem deepest_unicodeEscape {t rest : Text} (found : unicodeEscape t = .ok (c, rest))
    (opened : Nat) : deepest opened .quoted t = deepest opened .quoted rest := by
  unfold unicodeEscape at found
  split at found
  · cases found
  · next n after unit =>
    have digits : deepest opened .quoted t = deepest opened .quoted after := by
      unfold innerHexUnit? at unit
      split at unit
      · cases unit
      · exact deepest_hexUnit? unit opened
    rw [digits]
    simp only at found
    split at found
    · next next' =>
      split at found
      · split at found
        · cases found
        · next pair =>
          split at found
          · simp only [Except.ok.injEq, Prod.mk.injEq] at found
            rw [deepest_escaped, deepest_hexUnit? pair opened, found.2]
          · simp only [Except.ok.injEq, Prod.mk.injEq] at found
            rw [found.2]
      · cases found
        rfl
    · cases found
      rfl

theorem deepest_stringBody {opening t rest : Text} (fuel : Nat) (done : Text)
    (found : stringBody opening fuel done t = .ok (s, rest)) (opened : Nat) :
    deepest opened .quoted t = deepest opened .outside rest := by
  induction fuel generalizing done t with
  | zero => cases found
  | succ fuel ih =>
    unfold stringBody at found
    split at found
    · cases found
    · cases found
      simp [deepest]
    · split at found
      · cases found
      · next escape =>
        rw [deepest_escaped, deepest_unicodeEscape escape opened, ih _ found]
    · split at found
      · rw [deepest_escaped, ih _ found]
      · cases found
    · cases found
    · cases found
    · next c after noQuote noUnit noEscape noEnd noHalf =>
      split at found
      · cases found
      · have escape : c ≠ .char '\\' := by
          rintro rfl
          cases after with
          | nil => exact noEnd rfl rfl
          | cons d after =>
            cases d with
            | char letter => exact noEscape letter after rfl rfl
            | surrogate index => exact noHalf index after rfl rfl
        rw [deepest_quoted noQuote escape, ih _ found]

/-! ## Faults -/

def Fault.isTooDeep : Fault → Bool
  | nestedTooDeep _ => true
  | _ => false

theorem unicodeEscape_fault {t : Text} (refused : unicodeEscape t = .error fault) :
    fault.isTooDeep = false := by
  unfold unicodeEscape at refused
  split at refused
  · cases refused
    rfl
  · simp only at refused
    split at refused
    · split at refused
      · split at refused
        · cases refused
          rfl
        · split at refused <;> cases refused
      · cases refused
    · cases refused

theorem stringBody_fault {opening t : Text} (fuel : Nat) (done : Text)
    (refused : stringBody opening fuel done t = .error fault) : fault.isTooDeep = false := by
  induction fuel generalizing done t with
  | zero =>
    cases refused
    rfl
  | succ fuel ih =>
    unfold stringBody at refused
    split at refused
    · cases refused
      rfl
    · cases refused
    · split at refused
      · next escape =>
        cases refused
        exact unicodeEscape_fault escape
      · exact ih _ refused
    · split at refused
      · exact ih _ refused
      · cases refused
        rfl
    · cases refused
      rfl
    · cases refused
      rfl
    · split at refused
      · cases refused
        rfl
      · exact ih _ refused

theorem magnitude_fault {start t : Text} (refused : magnitude start negative t = .error fault) :
    fault.isTooDeep = false := by
  unfold magnitude at refused
  split at refused
  split at refused
  · cases refused
    rfl
  · split at refused
    · split at refused
      · cases refused
        rfl
      · cases refused
    · cases refused

theorem scalar_fault {t : Text} (refused : scalar t = .error fault) : fault.isTooDeep = false := by
  unfold scalar at refused
  split at refused
  · cases refused
  split at refused
  · cases refused
  split at refused
  · cases refused
  split at refused
  · cases refused
  split at refused
  · cases refused
  split at refused
  · cases refused
  split at refused <;> exact magnitude_fault refused

/-! ## Containers -/

theorem deepest_opening (opened : Nat) (rest : Text) {c : CodePoint}
    (opening : c = .char '[' ∨ c = .char '\x7b') :
    deepest opened .outside (c :: rest) = deepest (opened + 1) .outside rest := by
  rw [deepest, if_pos opening]

/-- What comes after the end of a container is not deeper than the container and that together. -/
theorem deepest_closing (opened : Nat) (rest : Text) {c : CodePoint}
    (closing : c = .char ']' ∨ c = .char '\x7d') :
    deepest opened .outside rest ≤ deepest (opened + 1) .outside (c :: rest) := by
  rcases closing with rfl | rfl <;> exact Nat.le_max_right _ _

theorem deepest_quote (opened : Nat) (rest : Text) :
    deepest opened .outside (.char '"' :: rest) = deepest opened .quoted rest := by
  simp [deepest]

/-- Of a text within a limit only such a text is left, or a fault other than too many containers. -/
def Kept (opened limit : Nat) : Except Fault (Value × Text) → Prop
  | .ok (_, rest) => deepest opened .outside rest ≤ limit
  | .error fault => fault.isTooDeep = false

def KeepsValues (fuel : Nat) : Prop :=
  ∀ depth opened t, deepest opened .outside t ≤ opened + depth →
    Kept opened (opened + depth) (value fuel depth t)

def KeepsElements (fuel : Nat) : Prop :=
  ∀ depth opened done t, deepest (opened + 1) .outside t ≤ opened + 1 + depth →
    Kept opened (opened + 1 + depth) (elements fuel depth done t)

def KeepsMembers (fuel : Nat) : Prop :=
  ∀ depth opened done t, deepest (opened + 1) .outside t ≤ opened + 1 + depth →
    Kept opened (opened + 1 + depth) (members fuel depth done t)

theorem string_kept (opened limit : Nat) (rest : Text)
    (within : deepest opened .outside (.char '"' :: rest) ≤ limit) :
    match string rest with
    | .ok (_, after) => deepest opened .outside after ≤ limit
    | .error fault => fault.isTooDeep = false := by
  rw [deepest_quote] at within
  split
  · next found => rwa [deepest_stringBody _ _ found opened] at within
  · next refused => exact stringBody_fault _ _ refused

theorem value_kept {fuel : Nat} (array : KeepsElements fuel) (object : KeepsMembers fuel) :
    KeepsValues (fuel + 1) := by
  intro depth opened t within
  -- inside of a container there is one more open, and room for one less
  have inner (c : CodePoint) (rest : Text) (opening : c = .char '[' ∨ c = .char '\x7b')
      (within : deepest opened .outside (c :: rest) ≤ opened + depth) :
      ∃ left, depth = left + 1 ∧
        deepest (opened + 1) .outside (skipSpace rest) ≤ opened + 1 + left := by
    rw [deepest_opening opened rest opening] at within
    have room := opened_le_deepest (opened + 1) .outside rest
    refine ⟨depth - 1, by omega, ?_⟩
    rw [← (skips_skipSpace rest).deepest]
    omega
  unfold value
  split
  · next rest =>
    have kept := string_kept opened (opened + depth) rest within
    split
    · next refused => simpa [Kept, refused] using kept
    · next read => simpa [Kept, read] using kept
  · next rest =>
    obtain ⟨left, rfl, deeper⟩ := inner _ rest (.inl rfl) within
    rw [show opened + (left + 1) = opened + 1 + left by omega]
    simp only
    split
    · next after empty =>
      rw [empty] at deeper
      exact Nat.le_trans (deepest_closing opened after (.inl rfl)) deeper
    · exact array left opened [] _ deeper
  · next rest =>
    obtain ⟨left, rfl, deeper⟩ := inner _ rest (.inr rfl) within
    rw [show opened + (left + 1) = opened + 1 + left by omega]
    simp only
    split
    · next after empty =>
      rw [empty] at deeper
      exact Nat.le_trans (deepest_closing opened after (.inr rfl)) deeper
    · exact object left opened [] _ deeper
  · cases read : scalar t with
    | error fault => exact scalar_fault read
    | ok found =>
      rw [(skips_scalar read).deepest] at within
      exact within

theorem elements_kept {fuel : Nat} (values : KeepsValues fuel) (array : KeepsElements fuel) :
    KeepsElements (fuel + 1) := by
  intro depth opened done t within
  have kept := values depth (opened + 1) t within
  unfold elements
  split
  · next refused => simpa [Kept, refused] using kept
  · next v rest read =>
    have after : deepest (opened + 1) .outside (skipSpace rest) ≤ opened + 1 + depth := by
      rw [← (skips_skipSpace rest).deepest]
      simpa [Kept, read] using kept
    split
    · next left shape =>
      rw [shape] at after
      exact Nat.le_trans (deepest_closing opened left (.inl rfl)) after
    · next left shape =>
      rw [shape, deepest_plain (by decide), (skips_skipSpace left).deepest] at after
      exact array depth opened (v :: done) (skipSpace left) after
    · rfl

theorem members_kept {fuel : Nat} (values : KeepsValues fuel) (object : KeepsMembers fuel) :
    KeepsMembers (fuel + 1) := by
  intro depth opened done t within
  unfold members
  split
  · next rest =>
    have named := string_kept (opened + 1) (opened + 1 + depth) rest within
    split
    · next refused => simpa [Kept, refused] using named
    · next name afterName read =>
      have colon : deepest (opened + 1) .outside (skipSpace afterName) ≤ opened + 1 + depth := by
        rw [← (skips_skipSpace afterName).deepest]
        simpa [read] using named
      split
      · next afterColon shape =>
        rw [shape, deepest_plain (by decide), (skips_skipSpace afterColon).deepest] at colon
        have kept := values depth (opened + 1) (skipSpace afterColon) colon
        split
        · next refused => simpa [Kept, refused] using kept
        · next v afterValue read =>
          have after : deepest (opened + 1) .outside (skipSpace afterValue) ≤ opened + 1 + depth := by
            rw [← (skips_skipSpace afterValue).deepest]
            simpa [Kept, read] using kept
          split
          · next left shape =>
            rw [shape] at after
            exact Nat.le_trans (deepest_closing opened left (.inr rfl)) after
          · next left shape =>
            rw [shape, deepest_plain (by decide), (skips_skipSpace left).deepest] at after
            exact object depth opened _ (skipSpace left) after
          · rfl
      · rfl
  · rfl

theorem keeps (fuel : Nat) : KeepsValues fuel ∧ KeepsElements fuel ∧ KeepsMembers fuel := by
  induction fuel with
  | zero => exact ⟨fun _ _ _ _ => rfl, fun _ _ _ _ _ => rfl, fun _ _ _ _ _ => rfl⟩
  | succ fuel ih =>
    obtain ⟨values, array, object⟩ := ih
    exact ⟨value_kept array object, elements_kept values array, members_kept values object⟩

/-- A text that is nested no deeper than a reader follows is not refused for its depth. -/
theorem parseWithin_fault {depth : Nat} {t : Text} (shallow : nesting t ≤ depth)
    (refused : parseWithin depth t = .error fault) : fault.isTooDeep = false := by
  have within : deepest 0 .outside (skipSpace t) ≤ 0 + depth := by
    rw [← (skips_skipSpace t).deepest]
    simpa [nesting] using shallow
  have kept := (keeps (2 * t.length + 2)).1 depth 0 (skipSpace t) within
  unfold parseWithin at refused
  split at refused
  · next read =>
    cases refused
    simpa [Kept, read] using kept
  · split at refused
    · cases refused
    · cases refused
      rfl

theorem parse_fault {t : Text} (shallow : nesting t ≤ assumedDepth) (refused : parse t = .error fault) :
    fault.isTooDeep = false := by
  unfold parse at refused
  split at refused
  · cases refused
    rfl
  · exact parseWithin_fault shallow refused

end ControlPlaneMetrics.Json
