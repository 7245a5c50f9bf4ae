import ControlPlaneMetrics.Proofs.LayingOut
import ControlPlaneMetrics.Proofs.Rereading

/-!
Colors in log lines. A colored line is the plain one with the names of levels between codes, so that
it is plain again once the codes are deleted. The record is left as it was, and what other handlers
write of it does not tell whether colors were shown.
-/
namespace ControlPlaneMetrics.Log

variable {r : Record} {f : Formatter} {ps : List Piece} {parts : List Text} {t name : Text}

/-! ## Deleting the codes -/

def escape : CodePoint := .char '\x1b'

/-- The codes that turn colors on, and the one that turns them off. -/
def colorCodes : List Text := Formatter.reset :: Formatter.colors.map (·.2)

/-- The text without the codes in it, and without what is still to be skipped. -/
def deleteCodes : (skipped : Nat) → Text → Text
  | _, [] => []
  | skipped + 1, _ :: t => deleteCodes skipped t
  | 0, c :: t => match colorCodes.find? (Text.startsWith (c :: t)) with
    | some code => deleteCodes (code.length - 1) t
    | none => c :: deleteCodes 0 t

def deleteColors (t : Text) : Text := deleteCodes 0 t

theorem deleteColors_code {code : Text} (member : code ∈ colorCodes) (rest : Text) :
    deleteColors (code ++ rest) = deleteColors rest := by
  simp only [colorCodes, Formatter.colors, List.map_cons, List.map_nil, List.mem_cons,
    List.not_mem_nil, or_false] at member
  rcases member with rfl | rfl | rfl | rfl | rfl | rfl <;> rfl

theorem escape_begins_code {code : Text} (member : code ∈ colorCodes) : code.head? = some escape := by
  have all : colorCodes.all (·.head? = some escape) = true := by decide
  simpa using List.all_eq_true.mp all code member

theorem deleteColors_plain (plain : escape ∉ t) (rest : Text) :
    deleteColors (t ++ rest) = t ++ deleteColors rest := by
  induction t with
  | nil => rfl
  | cons c t ih =>
    rw [List.mem_cons, not_or] at plain
    -- Every code begins with an escape, so none begins here.
    have missed : colorCodes.find? (Text.startsWith (c :: (t ++ rest))) = none := by
      rw [List.find?_eq_none]
      intro code member begins
      have head := escape_begins_code member
      cases code with
      | nil => cases head
      | cons d code =>
        cases head
        simp [Text.startsWith, Text.dropStart?, plain.1] at begins
    have later := ih plain.2
    unfold deleteColors at later ⊢
    rw [List.cons_append, deleteCodes, missed, later]
    rfl

theorem deleteColors_self (plain : escape ∉ t) : deleteColors t = t := by
  simpa [deleteColors, deleteCodes] using deleteColors_plain plain []

theorem color_mem (name : Text) : Formatter.color name ∈ colorCodes := by
  unfold Formatter.color
  cases found : lookup? name Formatter.colors with
  | none => exact List.mem_cons_self
  | some code => exact List.mem_cons_of_mem _ (List.mem_map_of_mem (mem_of_lookup? found))

theorem deleteColors_wrapped (plain : escape ∉ name) (rest : Text) :
    deleteColors (Formatter.wrapped name ++ rest) = name ++ deleteColors rest := by
  rw [Formatter.wrapped, List.append_assoc, List.append_assoc, deleteColors_code (color_mem name),
    deleteColors_plain plain, deleteColors_code List.mem_cons_self]

/-! ## Colored pieces -/

/-- The piece shows the name of the level. -/
def Piece.showsLevel : Piece → Bool
  | .conversion c => c.name = some Record.levelNameField
  | _ => false

/-- The text of a piece in a colored line. -/
def Piece.colored (p : Piece) (t : Text) : Text :=
  if p.showsLevel then Formatter.wrapped t else t

theorem deleteColors_colored (size : parts.length = ps.length) (plain : escape ∉ parts.flatten)
    (rest : Text) :
    deleteColors ((List.zipWith Piece.colored ps parts).flatten ++ rest) =
      parts.flatten ++ deleteColors rest := by
  induction ps generalizing parts with
  | nil =>
    rw [List.length_eq_zero_iff.mp size]
    rfl
  | cons p ps ih =>
    cases parts with
    | nil => cases size
    | cons t parts =>
      simp only [List.flatten_cons, List.mem_append, not_or] at plain
      have later := ih (Nat.succ.inj size) plain.2
      simp only [List.zipWith_cons_cons, List.flatten_cons, List.append_assoc, Piece.colored]
      split
      · rw [deleteColors_wrapped plain.1, later]
      · rw [deleteColors_plain plain.1, later]

/-- Patterns in which colors can be told: every conversion names a field, and the name of the level
is shown as it is. -/
structure Colorable (pattern : Text) : Prop where
  named : Named (pieces pattern)
  level : ∀ c, .conversion c ∈ pieces pattern → c.name = some Record.levelNameField → c.Plain

/-- The record whose level has its name in color. -/
def Record.painted (r : Record) : Record := { r with shownLevel := Formatter.wrapped r.shownLevel }

theorem text_showsLevel (r : Record) {c : Conversion} (plain : c.Plain)
    (own : c.name = some Record.levelNameField) :
    (Piece.conversion c).text (lookup? · r.fields) = .ok r.shownLevel := by
  simp only [Piece.text, own, r.lookup?_fields_shownLevel, plain.text]

theorem text_painted (r : Record) {p : Piece}
    (level : ∀ c, p = .conversion c → c.name = some Record.levelNameField → c.Plain) :
    p.text (lookup? · r.painted.fields) = (p.text (lookup? · r.fields)).map p.colored := by
  cases shows : p.showsLevel with
  | false =>
    have same : p.text (lookup? · r.painted.fields) = p.text (lookup? · r.fields) :=
      Piece.text_congr fun c name shape own => r.lookup?_fields_renamed _ fun level => by
        simp [shape, Piece.showsLevel, own, level] at shows
    rw [same]
    cases p.text (lookup? · r.fields) <;> simp [Except.map, Piece.colored, shows]
  | true =>
    cases p with
    | conversion c =>
      have own : c.name = some Record.levelNameField := by simpa [Piece.showsLevel] using shows
      have plain := level c rfl own
      rw [text_showsLevel r.painted plain own, text_showsLevel r plain own]
      simp [Except.map, Piece.colored, shows, Record.painted]
    | _ => cases shows

/-- The texts of the pieces for a record, of which those for the name of the level are that name. -/
structure Shown (ps : List Piece) (r : Record) (parts : List Text) : Prop where
  texts : ps.mapM (Piece.text (lookup? · r.fields)) = .ok parts
  size : parts.length = ps.length
  level : ∀ x ∈ ps.zip parts, x.1.showsLevel = true → x.2 = r.shownLevel

theorem shown_of_mapM
    (level : ∀ c, .conversion c ∈ ps → c.name = some Record.levelNameField → c.Plain)
    (texts : ps.mapM (Piece.text (lookup? · r.fields)) = .ok parts) : Shown ps r parts := by
  induction ps generalizing parts with
  | nil =>
    cases texts
    exact ⟨rfl, rfl, by simp⟩
  | cons p ps ih =>
    have whole := texts
    rw [List.mapM_cons] at texts
    cases first : p.text (lookup? · r.fields) with
    | error fault =>
      rw [first] at texts
      cases texts
    | ok t =>
      cases rest : ps.mapM (Piece.text (lookup? · r.fields)) with
      | error fault =>
        rw [first, rest] at texts
        cases texts
      | ok later =>
        rw [first, rest] at texts
        cases texts
        obtain ⟨-, size, others⟩ :=
          ih (fun c member => level c (List.mem_cons_of_mem p member)) rest
        refine ⟨whole, by simp [size], fun x member shows => ?_⟩
        rcases List.mem_cons.mp member with rfl | member
        · cases p with
          | conversion c =>
            have own : c.name = some Record.levelNameField := by simpa [Piece.showsLevel] using shows
            rw [text_showsLevel r (level c List.mem_cons_self own) own] at first
            exact (Except.ok.inj first).symm
          | _ => cases shows
        · exact others x member shows

/-! ## Colored lines -/

/-- Whether the text ends with a line end, if it has an end. -/
def endsLine? (t : Text) : Option Bool := t.getLast?.map (· = .char '\n')

theorem endsLine?_iff : endsLine? t = some true ↔ t.getLast? = some (.char '\n') := by
  simp [endsLine?]

theorem endsLine?_append (s t : Text) : endsLine? (s ++ t) = (endsLine? t).or (endsLine? s) := by
  unfold endsLine?
  rw [List.getLast?_append]
  cases t.getLast? <;> rfl

theorem endsLine?_wrapped (name : Text) : endsLine? (Formatter.wrapped name) = some false := by
  rw [Formatter.wrapped, endsLine?_append]
  rfl

/-- Colors change nothing at the end of a line if the name of the level ends none. -/
theorem endsLine?_colored (shown : Shown ps r parts) (within : endsLine? r.shownLevel = some false) :
    endsLine? (List.zipWith Piece.colored ps parts).flatten = endsLine? parts.flatten := by
  obtain ⟨-, size, level⟩ := shown
  induction ps generalizing parts with
  | nil => rw [List.length_eq_zero_iff.mp size]; rfl
  | cons p ps ih =>
    cases parts with
    | nil => cases size
    | cons t parts =>
      have later := ih (Nat.succ.inj size) fun x member => level x (List.mem_cons_of_mem _ member)
      rw [List.zipWith_cons_cons, List.flatten_cons, List.flatten_cons, endsLine?_append,
        endsLine?_append, later, Piece.colored]
      split
      · next shows =>
        have own : t = r.shownLevel := level (p, t) List.mem_cons_self shows
        rw [own, endsLine?_wrapped, within]
      · rfl

/-- The name that is shown for the level ends no line, as no name of a level does, or nothing is laid
out below the line. A name that ended the line would, in color, end it no more. -/
def Record.Closed (r : Record) : Prop :=
  endsLine? r.shownLevel = some false ∨ r.trace?.getD [] = [] ∧ r.calls.getD [] = []

namespace Formatter

/-- Lines that end alike get the same below them, if anything. -/
theorem above_append {line other : Text} {below? : Option Text}
    (alike : endsLine? line = endsLine? other ∨ below?.getD [] = []) :
    ∃ below, above line below? = line ++ below ∧ above other below? = other ++ below := by
  match below? with
  | none => exact ⟨[], by simp [above]⟩
  | some [] => exact ⟨[], by simp [above]⟩
  | some (c :: t) =>
    have alike : endsLine? line = endsLine? other := alike.resolve_right nofun
    have same : line.getLast? = some (.char '\n') ↔ other.getLast? = some (.char '\n') := by
      rw [← endsLine?_iff, ← endsLine?_iff, alike]
    by_cases ended : other.getLast? = some (.char '\n')
    · exact ⟨c :: t, by simp [above, ended, same.mpr ended]⟩
    · exact ⟨.char '\n' :: c :: t, by simp [above, ended, mt same.mp ended]⟩

theorem fill_painted (colorable : Colorable f.pattern) (r : Record) :
    (∃ fault, f.fill r = .error fault ∧ f.fill r.painted = .error fault) ∨
    ∃ parts, Shown (pieces f.pattern) r parts ∧ f.fill r = .ok parts.flatten ∧
      f.fill r.painted = .ok (List.zipWith Piece.colored (pieces f.pattern) parts).flatten := by
  have texts : (pieces f.pattern).mapM (Piece.text (lookup? · r.painted.fields)) =
      ((pieces f.pattern).mapM (Piece.text (lookup? · r.fields))).map
        (List.zipWith Piece.colored (pieces f.pattern)) :=
    mapM_text fun p member => text_painted r fun c shape => colorable.level c (shape ▸ member)
  unfold fill
  rw [fillByName_named colorable.named, fillByName_named colorable.named, texts]
  cases plain : (pieces f.pattern).mapM (Piece.text (lookup? · r.fields)) with
  | error fault => exact .inl ⟨_, rfl, rfl⟩
  | ok parts => exact .inr ⟨parts, shown_of_mapM colorable.level plain, rfl, rfl⟩

/-- The same fault, or the same line but for the colors. -/
theorem layOut_painted (colorable : Colorable f.pattern) (closed : r.Closed) :
    (∃ fault, (f.layOut r).1 = .error fault ∧ (f.layOut r.painted).1 = .error fault) ∨
    ∃ message parts below, r.message = .ok message ∧
      Shown (pieces f.pattern) (r.note message f.usesTime) parts ∧
      (f.layOut r).1 = .ok (parts.flatten ++ below) ∧
      (f.layOut r.painted).1 =
        .ok ((List.zipWith Piece.colored (pieces f.pattern) parts).flatten ++ below) := by
  rw [layOut_line, layOut_line, show r.painted.message = r.message from rfl,
    show r.painted.trace? = r.trace? from rfl, show r.painted.calls = r.calls from rfl]
  cases r.message with
  | error fault => exact .inl ⟨_, rfl, rfl⟩
  | ok message =>
    dsimp only
    have filled := fill_painted colorable (r.note message f.usesTime)
    rw [show (r.note message f.usesTime).painted = r.painted.note message f.usesTime from rfl]
      at filled
    rcases filled with ⟨fault, plain, painted⟩ | ⟨parts, shown, plain, painted⟩
    · rw [plain, painted]
      exact .inl ⟨fault, rfl, rfl⟩
    · -- Both lines end alike, so that the trace begins alike below them, and the calls below that.
      have alike := closed.imp_left (endsLine?_colored shown)
      obtain ⟨trace, traced, traced'⟩ := above_append (alike.imp_right And.left)
      have longer : endsLine? ((List.zipWith Piece.colored (pieces f.pattern) parts).flatten ++ trace) =
          endsLine? (parts.flatten ++ trace) ∨ r.calls.getD [] = [] :=
        alike.imp (fun alike => by rw [endsLine?_append, endsLine?_append, alike]) And.right
      obtain ⟨calls, called, called'⟩ := above_append longer
      refine .inr ⟨message, parts, trace ++ calls, rfl, shown, ?_, ?_⟩
      · rw [plain, Except.map, traced', called', List.append_assoc]
      · rw [painted, Except.map, traced, called, List.append_assoc]

end Formatter

theorem endsLine?_decimal (n : Nat) : endsLine? (Json.decimal n) = some false := by
  have some : Json.decimal n ≠ [] := by
    rw [Json.decimal, Ne, List.map_eq_nil_iff]
    exact Nat.toDigits_ne_nil
  have digit := Json.decimal_isDigit n _ (List.getLast_mem some)
  rw [endsLine?, List.getLast?_eq_some_getLast some, Option.map_some]
  refine congrArg Option.some (decide_eq_false fun ended => ?_)
  rw [ended] at digit
  exact absurd digit (by decide)

/-- The names of levels end no line. -/
theorem endsLine?_levelName (level : Int) : endsLine? (levelName level) = some false := by
  have number : endsLine? (Text.ofInt level) = some false := by
    cases level with
    | ofNat n => rw [Json.ofInt_ofNat, endsLine?_decimal]
    | negSucc n =>
      rw [Json.ofInt_negSucc, ← List.singleton_append, endsLine?_append, endsLine?_decimal]
      rfl
  unfold levelName
  repeat (split; · rfl)
  rw [endsLine?_append, number]
  rfl

/-- Records as they are made, whose levels have the names of levels. -/
theorem Record.closed_of_levelName (named : r.shownLevel = levelName r.level) : r.Closed :=
  .inl (named ▸ endsLine?_levelName r.level)

/-! ## Colored formatters -/

namespace Formatter

theorem ofPattern_colored (colored : Bool) (pattern : Value) :
    ofPattern colored pattern = (ofPattern false pattern).map ({ · with colored := colored }) := by
  unfold ofPattern
  split
  · rfl
  split
  · split <;> rfl
  · rfl

/-- Whether a pattern is accepted does not depend on colors. -/
theorem ofPattern_pair {pattern : Value} {colored : Formatter}
    (accepted : ofPattern true pattern = .ok colored) : ∃ text,
      colored = ⟨text, true⟩ ∧ ofPattern false pattern = .ok ⟨text, false⟩ := by
  rw [ofPattern_colored] at accepted
  have plain := ofPattern_colored false pattern
  cases read : ofPattern false pattern with
  | error fault =>
    rw [read] at accepted
    cases accepted
  | ok f =>
    rw [read] at accepted plain
    cases accepted
    exact ⟨f.pattern, rfl, plain⟩

end Formatter

/-- One formatter shows a record as the other does, but for colors around the names of levels, and
leaves it as it was. Handlers after it write to files what they would write without it, and the log
file gets the line that it would get after the other. -/
structure ColorsOnly (colored plain : Formatter) (r : Record) : Prop where
  deleted : (colored.format r).map deleteColors = plain.format r
  wraps : ∀ line, plain.format r = .ok line → ∃ message parts below,
    r.message = .ok message ∧
    Shown (pieces plain.pattern) (r.note message plain.usesTime) parts ∧
    line = parts.flatten ++ below ∧
    colored.format r =
      .ok ((List.zipWith Piece.colored (pieces plain.pattern) parts).flatten ++ below)
  unchanged : (colored.formatted r).2 = r
  apart : ∀ (s : Logging) level later,
    ({ s with handlers := .ofConsole level colored :: later }.handle r).files =
      ({ s with handlers := later }.handle r).files
  file : ∀ (s : Logging) level path bound,
    ({ s with handlers := [.ofConsole level colored, .ofFile path bound] }.handle r).files =
      ({ s with handlers := [.ofConsole level plain, .ofFile path bound] }.handle r).files

namespace Logging

theorem handle_files (s : Logging) (handlers : List Handler) (r : Record) :
    ({ s with handlers := handlers }.handle r).files =
      if r.level < s.admittedLevel r.logger then s.files
      else (handlers.foldl handleBy (s, r)).1.files := by
  have same : ({ s with handlers := handlers } : Logging).files = s.files := rfl
  have admitted : ({ s with handlers := handlers } : Logging).admittedLevel r.logger =
    s.admittedLevel r.logger := rfl
  rw [handle, admitted, ← foldl_handleBy_files same r handlers]
  split <;> rfl

/-- A console handler leaves the files as they are. -/
theorem handleBy_console (s : Logging) (r : Record) (level : Int) (f : Formatter) :
    (handleBy (s, r) (.ofConsole level f)).1.files = s.files ∧
    (handleBy (s, r) (.ofConsole level f)).2 = if r.level < level then r else (f.formatted r).2 := by
  unfold handleBy
  by_cases below : r.level < level
  · simp [Handler.ofConsole, below]
  · have writes : (Handler.ofConsole level f).target ≠ .nowhere := nofun
    rw [deliver_eq s r writes]
    simp only [Handler.ofConsole, below, if_false]
    exact ⟨addLine_console_files s _, rfl⟩

/-- A log file gets the same line whatever notes are left in the record. -/
theorem handleBy_file {s s' : Logging} (same : s.files = s'.files) {after : Record}
    (noted : r.Noted after) (path : Text) (level : Int) :
    (handleBy (s', after) (.ofFile path level)).1.files =
      (handleBy (s, r) (.ofFile path level)).1.files := by
  unfold handleBy
  by_cases below : r.level < level
  · simp [Handler.ofFile, noted.level, below, same]
  · have writes : (Handler.ofFile path level).target ≠ .nowhere := nofun
    rw [deliver_eq s r writes, deliver_eq s' after writes]
    simp only [Handler.ofFile, noted.level, below, if_false, Handler.layout, Option.getD_some,
      Formatter.ofFile_format_of_noted noted]
    exact addLine_files same.symm _ _

/-- After a console whose formatter leaves the record as it was, files are written as without it. -/
theorem files_after_console (s : Logging) (level : Int) (later : List Handler)
    (unchanged : (f.formatted r).2 = r) :
    ({ s with handlers := .ofConsole level f :: later }.handle r).files =
      ({ s with handlers := later }.handle r).files := by
  obtain ⟨files, record⟩ := s.handleBy_console r level f
  have kept : handleBy (s, r) (.ofConsole level f) =
      ((handleBy (s, r) (.ofConsole level f)).1, r) := by
    refine Prod.ext rfl (record.trans ?_)
    split
    · rfl
    · exact unchanged
  rw [handle_files, handle_files, List.foldl_cons, kept, foldl_handleBy_files files]

/-- The log file does not tell how the console before it shows a record. -/
theorem files_of_console_file (s : Logging) (r : Record) (level : Int) (path : Text) (bound : Int)
    (f g : Formatter) :
    ({ s with handlers := [.ofConsole level f, .ofFile path bound] }.handle r).files =
      ({ s with handlers := [.ofConsole level g, .ofFile path bound] }.handle r).files := by
  have written (shown : Formatter) :
      ([.ofConsole level shown, .ofFile path bound].foldl handleBy (s, r)).1.files =
        (handleBy (s, r) (.ofFile path bound)).1.files :=
    handleBy_file (s.handleBy_console r level shown).1.symm (s.handleBy_noted r _) path bound
  rw [handle_files, handle_files, written, written]

end Logging

/-- If every conversion of a pattern names a field, and the name of the level is shown as it is, then
colors put codes around each name of the level and do nothing else. Without the codes the line is the
plain one, as long as that has no escape of its own, and where one fails the other fails alike. The
record is left as it was, and the log file gets the line that it would get without colors. -/
theorem coloring_only_wraps_level_names {pattern : Value} {colored : Formatter}
    (accepted : Formatter.ofPattern true pattern = .ok colored)
    (colorable : Colorable colored.pattern) :
    ∃ plain, Formatter.ofPattern false pattern = .ok plain ∧
      ∀ r : Record, r.Closed →
        (∀ line, plain.format r = .ok line → escape ∉ line) → ColorsOnly colored plain r := by
  obtain ⟨text, rfl, read⟩ := Formatter.ofPattern_pair accepted
  refine ⟨⟨text, false⟩, read, fun r closed quiet => ?_⟩
  have lines := Formatter.layOut_painted (f := ⟨text, false⟩) colorable closed
  have shows : Formatter.format ⟨text, true⟩ r = (Formatter.layOut ⟨text, false⟩ r.painted).1 := rfl
  have bare : Formatter.format ⟨text, false⟩ r = (Formatter.layOut ⟨text, false⟩ r).1 := rfl
  refine ⟨?_, ?_, rfl, ?_, ?_⟩
  · rcases lines with ⟨fault, plain, painted⟩ | ⟨message, parts, below, known, shown, plain, painted⟩
    · rw [shows, bare, plain, painted]
      rfl
    · have absent := quiet _ (bare.trans plain)
      rw [List.mem_append, not_or] at absent
      rw [shows, bare, plain, painted, Except.map, deleteColors_colored shown.size absent.1,
        deleteColors_self absent.2]
  · intro line formatted
    rcases lines with ⟨fault, plain, -⟩ | ⟨message, parts, below, known, shown, plain, painted⟩
    · cases formatted.symm.trans (bare.trans plain)
    · cases formatted.symm.trans (bare.trans plain)
      exact ⟨message, parts, below, known, shown, rfl, shows.trans painted⟩
  · exact fun s level later => s.files_after_console level later rfl
  · exact fun s level path bound => s.files_of_console_file r level path bound _ _

/-- A pattern that shows the name of the level twice. -/
def twicePattern : Text :=
  Text.ofString "%(levelname)s: %(message)s [%(levelname)s at line %(lineno)03d, 100%%]"

/-- A warning that tells of a failure. -/
def failedFlush : Record where
  level := 30
  logger := Text.ofString "core.aggregator"
  template := .text (Text.ofString "flush of %d series failed")
  arguments := [.int 3]
  created := .int 0
  milliseconds := 0
  path := Text.ofString "/x/aggregator.py"
  line := 7
  function := Text.ofString "flush"
  incident := some ⟨.value .null, Text.ofString "ValueError: negative"⟩

theorem failed_flush_is_a_warning_twice :
    let colored : Formatter := ⟨twicePattern, true⟩
    let plain : Formatter := ⟨twicePattern, false⟩
    Formatter.ofPattern true (.text twicePattern) = .ok colored ∧
    Colorable colored.pattern ∧ failedFlush.Closed ∧
    (∀ line, plain.format failedFlush = .ok line → escape ∉ line) ∧
    plain.format failedFlush = .ok (Text.ofString
      "WARNING: flush of 3 series failed [WARNING at line 007, 100%]\nValueError: negative") ∧
    colored.format failedFlush = .ok (Text.ofString
      ("\x1b[33mWARNING\x1b[0m: flush of 3 series failed " ++
        "[\x1b[33mWARNING\x1b[0m at line 007, 100%]\nValueError: negative")) ∧
    ColorsOnly colored plain failedFlush := by
  intro colored plain
  have accepted : Formatter.ofPattern true (.text twicePattern) = .ok colored := by
    decide +kernel
  have colorable : Colorable colored.pattern := ⟨by decide +kernel, by decide +kernel⟩
  have closed : failedFlush.Closed := Record.closed_of_levelName rfl
  have line : plain.format failedFlush = .ok (Text.ofString
      "WARNING: flush of 3 series failed [WARNING at line 007, 100%]\nValueError: negative") := by
    decide +kernel
  have painted : colored.format failedFlush = .ok (Text.ofString
      ("\x1b[33mWARNING\x1b[0m: flush of 3 series failed " ++
        "[\x1b[33mWARNING\x1b[0m at line 007, 100%]\nValueError: negative")) := by
    decide +kernel
  have quiet : ∀ t, plain.format failedFlush = .ok t → escape ∉ t := by
    intro t formatted
    cases line.symm.trans formatted
    decide +kernel
  obtain ⟨other, read, only⟩ := coloring_only_wraps_level_names accepted colorable
  have same : Formatter.ofPattern false (.text twicePattern) = .ok plain := by decide +kernel
  obtain rfl : other = plain := Except.ok.inj (read.symm.trans same)
  exact ⟨accepted, colorable, closed, quiet, line, painted, only failedFlush closed quiet⟩

/-- Names that colors are not made for. Where a name ends the line, one more line end is put, in
color, before what is below it. A level without a name has no color, and is shown between two of the
codes that end one. -/
theorem coloring_of_other_level_names :
    let pattern := Text.ofString "%(message)s %(levelname)s"
    let ending := { failedFlush with shownLevel := Text.ofString "NOTE\n" }
    let nameless := { failedFlush with level := 25, shownLevel := levelName 25, incident := none }
    Formatter.ofPattern true (.text pattern) = .ok ⟨pattern, true⟩ ∧ Colorable pattern ∧
    (∀ line, Formatter.format ⟨pattern, false⟩ ending = .ok line → escape ∉ line) ∧
    (Formatter.format ⟨pattern, true⟩ ending).map deleteColors ≠
      Formatter.format ⟨pattern, false⟩ ending ∧
    lookup? nameless.shownLevel Formatter.colors = none ∧
    Formatter.format ⟨pattern, false⟩ nameless =
      .ok (Text.ofString "flush of 3 series failed Level 25") ∧
    Formatter.format ⟨pattern, true⟩ nameless =
      .ok (Text.ofString "flush of 3 series failed \x1b[0mLevel 25\x1b[0m") := by
  intro pattern ending nameless
  have line : Formatter.format ⟨pattern, false⟩ ending = .ok (Text.ofString
      "flush of 3 series failed NOTE\nValueError: negative") := by
    decide +kernel
  have painted : (Formatter.format ⟨pattern, true⟩ ending).map deleteColors = .ok (Text.ofString
      "flush of 3 series failed NOTE\n\nValueError: negative") := by
    decide +kernel
  have quiet : ∀ t, Formatter.format ⟨pattern, false⟩ ending = .ok t → escape ∉ t := by
    intro t formatted
    cases line.symm.trans formatted
    decide +kernel
  have apart : (Formatter.format ⟨pattern, true⟩ ending).map deleteColors ≠
      Formatter.format ⟨pattern, false⟩ ending := by
    rw [line, painted]
    decide +kernel
  exact ⟨by decide +kernel, ⟨by decide +kernel, by decide +kernel⟩, quiet, apart, by decide +kernel,
    by decide +kernel, by decide +kernel⟩

end ControlPlaneMetrics.Log
