import ControlPlaneMetrics.Log.Pattern

/-!
Patterns whose conversions all have names. A conversion with a name gets the one field of that name
and leaves nothing for the next, so that the pattern is filled piece by piece, and by no more than
the fields that it names.
-/
namespace ControlPlaneMetrics.Log

instance decidableEqOutcome {ε α : Type} [DecidableEq ε] [DecidableEq α] :
    DecidableEq (Except ε α)
  | .ok a, .ok b => decidable_of_iff (a = b) (by simp)
  | .error e, .error f => decidable_of_iff (e = f) (by simp)
  | .ok _, .error _ => isFalse nofun
  | .error _, .ok _ => isFalse nofun

variable {field? other? : Text → Option Argument} {c : Conversion} {name : Text} {ps : List Piece}

/-! ## One conversion -/

theorem Supply.next_withFields (s : Supply) (fields? : Option (Text → Option Argument)) :
    { s with fields? := fields? }.next =
      s.next.map fun (a, next) => (a, { next with fields? := fields? }) := by
  cases shape : s.arguments with
  | nil => simp [Supply.next, shape, Except.map]
  | cons a rest => simp [Supply.next, shape, Except.map]

theorem Supply.size_withFields (s : Supply) (fields? : Option (Text → Option Argument))
    (limit : Int) (tooBig tooLarge : PatternFault) (size : Option Size) :
    { s with fields? := fields? }.size limit tooBig tooLarge size =
      (s.size limit tooBig tooLarge size).map fun (n, next) => (n, { next with fields? := fields? }) := by
  cases size with
  | none => rfl
  | some size =>
    cases size with
    | given n =>
      simp only [Supply.size]
      split <;> rfl
    | argument =>
      simp only [Supply.size, Supply.next_withFields]
      cases s.next with
      | error fault => rfl
      | ok found =>
        obtain ⟨a, next⟩ := found
        simp only [Except.map, bind, Except.bind]
        cases a.integer? with
        | none => rfl
        | some n =>
          dsimp only
          split <;> rfl

/-- A conversion without a name does not look at the fields. -/
theorem convert_withFields (s : Supply) (fields? : Option (Text → Option Argument))
    (unnamed : c.name = none) :
    convert { s with fields? := fields? } c =
      (convert s c).map fun (t, next) => (t, { next with fields? := fields? }) := by
  unfold convert
  simp only [unnamed, bind, Except.bind, Supply.size_withFields]
  cases s.size maxWidth .widthTooBig .widthArgumentTooLarge c.width with
  | error fault => rfl
  | ok sized =>
    obtain ⟨width, s⟩ := sized
    simp only [Except.map, Supply.size_withFields]
    cases s.size maxPrecision .precisionTooBig .precisionArgumentTooLarge c.precision with
    | error fault => rfl
    | ok sized =>
      obtain ⟨precision, s⟩ := sized
      dsimp only
      cases c.letter with
      | none => rfl
      | some ended =>
        obtain ⟨letter, position⟩ := ended
        simp only [Supply.next_withFields]
        cases s.next with
        | error fault => rfl
        | ok found =>
          obtain ⟨a, s⟩ := found
          simp only [Except.map]
          cases figure letter position c.flags (precision.map Int.toNat) a <;> rfl

theorem convert_of_name (s : Supply) (named : c.name = some name) :
    convert s c = s.focus name >>= (convert · { c with name := none }) := by
  unfold convert
  rw [named]
  rfl

theorem convert_absent {s : Supply} (supplied : s.fields? = some field?)
    (named : c.name = some name) (absent : field? name = none) :
    convert s c = .error (.fieldAbsent name) := by
  rw [convert_of_name s named]
  simp [Supply.focus, supplied, absent, bind, Except.bind]

/-- A conversion with a name gets the field of that name, and no argument. -/
theorem convert_found {s : Supply} {a : Argument} (supplied : s.fields? = some field?)
    (named : c.name = some name) (found : field? name = some a) :
    convert s c = (convert ⟨none, [a]⟩ { c with name := none }).map fun (t, next) =>
      (t, { next with fields? := some field? }) := by
  rw [convert_of_name s named]
  simp only [Supply.focus, supplied, found, bind, Except.bind]
  exact convert_withFields (c := { c with name := none }) ⟨none, [a]⟩ (some field?) rfl

/-- What a conversion makes of the field that it names. -/
def Conversion.text (c : Conversion) (a : Argument) : Except PatternFault Text :=
  (convert ⟨none, [a]⟩ { c with name := none }).map (·.1)

/-- The conversion shows a text as it is. -/
structure Conversion.Plain (c : Conversion) : Prop where
  flags : c.flags = ⟨false, false, false, false, false⟩
  width : c.width = none
  precision : c.precision = none
  letter : c.letter.map (·.1) = some (.char 's')

theorem Conversion.Plain.text (plain : c.Plain) (t : Text) :
    c.text (.value (.text t)) = .ok t := by
  obtain ⟨⟨_, position⟩, letter, rfl⟩ := Option.map_eq_some_iff.mp plain.letter
  simp [Conversion.text, convert, plain.flags, plain.width, plain.precision, letter, Supply.size,
    Supply.next, figure, Figure.pad, Argument.display, Value.display, bind, Except.bind, Except.map]

instance (c : Conversion) : Decidable c.Plain :=
  decidable_of_iff (c.flags = ⟨false, false, false, false, false⟩ ∧ c.width = none ∧
      c.precision = none ∧ c.letter.map (·.1) = some (.char 's'))
    ⟨fun ⟨flags, width, precision, letter⟩ => ⟨flags, width, precision, letter⟩,
      fun plain => ⟨plain.flags, plain.width, plain.precision, plain.letter⟩⟩

/-! ## A pattern -/

def conversions (ps : List Piece) : List Conversion :=
  ps.filterMap fun | .conversion c => some c | _ => none

theorem mem_conversions : c ∈ conversions ps ↔ .conversion c ∈ ps := by
  rw [conversions, List.mem_filterMap]
  constructor
  · rintro ⟨p, member, own⟩
    cases p with
    | conversion d =>
      cases own
      exact member
    | _ => cases own
  · exact fun member => ⟨.conversion c, member, rfl⟩

instance {P : Conversion → Prop} [DecidablePred P] (ps : List Piece) :
    Decidable (∀ c, .conversion c ∈ ps → P c) :=
  decidable_of_iff (∀ c ∈ conversions ps, P c) (by simp only [mem_conversions])

/-- Every conversion among the pieces has a name. -/
def Named (ps : List Piece) : Prop := ∀ c, .conversion c ∈ ps → c.name.isSome = true

instance (ps : List Piece) : Decidable (Named ps) :=
  inferInstanceAs (Decidable (∀ c, .conversion c ∈ ps → c.name.isSome = true))

/-- The text of a piece by itself, where its conversion has a name. -/
def Piece.text (field? : Text → Option Argument) : Piece → Except PatternFault Text
  | .plain t => .ok t
  | .percent => .ok [.char '%']
  | .conversion c => match c.name with
    | none => .error .argumentsExhausted
    | some name => match field? name with
      | none => .error (.fieldAbsent name)
      | some a => c.text a
  | .openName => .error .openName

/-- A text before what the other pieces show. -/
theorem fillPieces_after (t : Text) (s : Supply)
    (later : (fillPieces s ps).map (·.1) = (ps.mapM (Piece.text field?)).map List.flatten) :
    (fillPieces s ps >>= fun (filled, s) => .ok (t ++ filled, s)).map (·.1) =
      (ps.mapM (Piece.text field?)).map fun ts => (t :: ts).flatten := by
  cases filled : fillPieces s ps <;> cases shown : ps.mapM (Piece.text field?) <;>
    simp_all [Except.map, bind, Except.bind]

/-- Pieces with names are filled one by one, and the first fault is the one that is met. -/
theorem fillPieces_named (named : Named ps) {s : Supply} (supplied : s.fields? = some field?) :
    (fillPieces s ps).map (·.1) = (ps.mapM (Piece.text field?)).map List.flatten := by
  induction ps generalizing s with
  | nil => rfl
  | cons p rest ih =>
    have others : Named rest := fun c member => named c (List.mem_cons_of_mem p member)
    have first (t : Text) (shown : p.text field? = .ok t) :
        ((p :: rest).mapM (Piece.text field?)).map List.flatten =
          (rest.mapM (Piece.text field?)).map fun ts => (t :: ts).flatten := by
      rw [List.mapM_cons, shown]
      cases rest.mapM (Piece.text field?) <;> rfl
    have faulty (fault : PatternFault) (shown : p.text field? = .error fault) :
        ((p :: rest).mapM (Piece.text field?)).map List.flatten = .error fault := by
      rw [List.mapM_cons, shown]
      rfl
    cases p with
    | plain t => rw [first t rfl, fillPieces, fillPieces_after t s (ih others supplied)]
    | percent =>
      rw [first _ rfl, ← fillPieces_after [.char '%'] s (ih others supplied)]
      rfl
    | openName =>
      rw [faulty .openName rfl]
      simp [fillPieces, supplied, Except.map]
    | conversion c =>
      obtain ⟨name, own⟩ := Option.isSome_iff_exists.mp (named c List.mem_cons_self)
      cases found : field? name with
      | none =>
        have shown : (Piece.conversion c).text field? = .error (.fieldAbsent name) := by
          simp [Piece.text, own, found]
        rw [faulty _ shown, fillPieces, convert_absent supplied own found]
        rfl
      | some a =>
        have shown : (Piece.conversion c).text field? = c.text a := by simp [Piece.text, own, found]
        rw [Conversion.text] at shown
        rw [fillPieces, convert_found supplied own found]
        cases outcome : convert ⟨none, [a]⟩ { c with name := none } with
        | error fault =>
          rw [outcome] at shown
          rw [faulty fault shown]
          rfl
        | ok result =>
          obtain ⟨t, next⟩ := result
          rw [outcome] at shown
          rw [first t shown]
          exact fillPieces_after t { next with fields? := some field? } (ih others rfl)

/-- A pattern whose conversions have names shows its pieces one after the other. -/
theorem fillByName_named {pattern : Text} (named : Named (pieces pattern)) (whole : Argument) :
    fillByName pattern whole field? =
      ((pieces pattern).mapM (Piece.text field?)).map List.flatten :=
  fillPieces_named named rfl

/-! ## Fields that change -/

theorem Piece.text_congr {p : Piece}
    (agree : ∀ c name, p = .conversion c → c.name = some name → field? name = other? name) :
    p.text field? = p.text other? := by
  cases p with
  | conversion c =>
    simp only [Piece.text]
    cases named : c.name with
    | none => rfl
    | some name => simp only [agree c name rfl named]
  | _ => rfl

/-- Where the text of each piece changes, so do the texts of all, or the first fault remains. -/
theorem mapM_text {change : Piece → Text → Text}
    (each : ∀ p ∈ ps, p.text other? = (p.text field?).map (change p)) :
    ps.mapM (Piece.text other?) = (ps.mapM (Piece.text field?)).map (List.zipWith change ps) := by
  induction ps with
  | nil => rfl
  | cons p rest ih =>
    obtain ⟨here, others⟩ := List.forall_mem_cons.mp each
    rw [List.mapM_cons, List.mapM_cons, here, ih others]
    cases p.text field? with
    | error fault => rfl
    | ok t => cases rest.mapM (Piece.text field?) <;> rfl

theorem mapM_text_congr (each : ∀ p ∈ ps, p.text field? = p.text other?) :
    ps.mapM (Piece.text field?) = ps.mapM (Piece.text other?) := by
  induction ps with
  | nil => rfl
  | cons p rest ih =>
    obtain ⟨here, others⟩ := List.forall_mem_cons.mp each
    rw [List.mapM_cons, List.mapM_cons, here, ih others]

/-- Fields that the pattern does not name do not count. -/
theorem fillByName_congr {pattern : Text} (named : Named (pieces pattern)) (whole : Argument)
    (agree : ∀ c name, .conversion c ∈ pieces pattern → c.name = some name →
      field? name = other? name) :
    fillByName pattern whole field? = fillByName pattern whole other? := by
  rw [fillByName_named named, fillByName_named named, mapM_text_congr fun p member =>
    Piece.text_congr fun c name shape => agree c name (shape ▸ member)]

end ControlPlaneMetrics.Log
