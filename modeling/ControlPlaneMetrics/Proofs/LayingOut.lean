import ControlPlaneMetrics.Log.Setup
import ControlPlaneMetrics.Proofs.NamedConversions

/-!
What laying out a record changes in it: the notes, and never the name of the level. A formatter
that shows none of the notes of others lays the record out alike before and after.
-/
namespace ControlPlaneMetrics.Log

variable {r : Record} {f g : Formatter} {name : Text}

/-! ## Fields -/

namespace Record

theorem lookup?_fields_shownLevel (r : Record) :
    lookup? levelNameField r.fields = some (.value (.text r.shownLevel)) := rfl

/-- The name that is shown for the level is one field alone. -/
theorem lookup?_fields_renamed (r : Record) (shown : Text) (apart : name ≠ levelNameField) :
    lookup? name { r with shownLevel := shown }.fields = lookup? name r.fields := by
  simp only [fields, lookup?, List.cons_append, if_neg (Ne.symm apart)]
  rfl

theorem lookup?_fields_renoted (r : Record) {notes notes' : Notes}
    (message : notes.message? = notes'.message?)
    (time : notes.time? = notes'.time? ∨ name ≠ timeField) (apart : name ≠ traceField) :
    lookup? name { r with notes := notes }.fields =
      lookup? name { r with notes := notes' }.fields := by
  have timed : lookup? name (notes.time?.map fun t => (timeField, Argument.value (.text t))).toList =
      lookup? name (notes'.time?.map fun t => (timeField, Argument.value (.text t))).toList := by
    rcases time with same | other
    · rw [same]
    · cases notes.time? <;> cases notes'.time? <;> simp [lookup?, Ne.symm other]
  simp only [fields, lookup?_append, lookup?, if_neg (Ne.symm apart), message, timed]
  rfl

/-- The trace that is noted is the one that is laid out from then on. -/
theorem trace?_noteTrace (r : Record) : r.noteTrace.trace? = r.trace? := by
  rcases noted : r.notes.trace? with _ | _ | ⟨c, t⟩ <;>
    rcases told : r.incident with _ | ⟨shown, _ | ⟨d, u⟩⟩ <;>
    simp [noteTrace, trace?, noted, told]

/-- The record but for its notes, of which the trace is still the same. -/
structure Noted (r after : Record) : Prop where
  record : after = { r with notes := after.notes }
  trace : after.trace? = r.trace?

theorem Noted.refl (r : Record) : r.Noted r := ⟨rfl, rfl⟩

theorem Noted.level {after : Record} (noted : r.Noted after) : after.level = r.level := by
  rw [noted.record]

end Record

namespace Formatter

theorem layOut_noted (f : Formatter) (r : Record) : r.Noted (f.layOut r).2 := by
  unfold layOut
  cases r.message with
  | error fault => exact .refl r
  | ok message =>
    dsimp only
    cases f.fill (r.note message f.usesTime) with
    | error fault => exact ⟨rfl, rfl⟩
    | ok line => exact ⟨rfl, Record.trace?_noteTrace _⟩

theorem formatted_noted (f : Formatter) (r : Record) : r.Noted (f.formatted r).2 := by
  unfold formatted
  split
  · exact .refl r
  · exact layOut_noted f r

/-- The line alone, of a record of which only the message and the time are noted anew. -/
theorem layOut_line (f : Formatter) (r : Record) :
    (f.layOut r).1 = match r.message with
      | .error fault => .error (.pattern fault)
      | .ok message => (f.fill (r.note message f.usesTime)).map fun line =>
          above (above line r.trace?) r.calls := by
  unfold layOut
  cases r.message with
  | error fault => rfl
  | ok message =>
    dsimp only
    cases f.fill (r.note message f.usesTime) <;> rfl

/-- The formatter shows no note that it does not write itself. -/
structure Renews (f : Formatter) : Prop where
  named : Named (pieces f.pattern)
  time : ∀ c, .conversion c ∈ pieces f.pattern → c.name = some Record.timeField → f.usesTime = true
  trace : ∀ c, .conversion c ∈ pieces f.pattern → c.name ≠ some Record.traceField

theorem fill_of_noted (renews : f.Renews) {after : Record} (noted : r.Noted after)
    (message : Text) :
    f.fill (after.note message f.usesTime) = f.fill (r.note message f.usesTime) := by
  unfold fill
  rw [fillByName_congr renews.named]
  intro c name member own
  rw [noted.record]
  refine r.lookup?_fields_renoted rfl ?_ fun shown => renews.trace c member (shown ▸ own)
  by_cases timed : name = Record.timeField
  · left
    simp only [renews.time c member (timed ▸ own), if_true]
    rfl
  · exact .inr timed

/-- The notes that other formatters have left do not show. -/
theorem layOut_of_noted (renews : f.Renews) {after : Record} (noted : r.Noted after) :
    (f.layOut after).1 = (f.layOut r).1 := by
  have message : after.message = r.message := by
    rw [noted.record]
    rfl
  have calls : after.calls = r.calls := by rw [noted.record]
  rw [layOut_line, layOut_line, message, noted.trace, calls]
  simp only [fill_of_noted renews noted]

/-- The formatter of a log file. -/
def ofFile : Formatter := ⟨filePattern, false⟩

theorem ofFile_renews : ofFile.Renews := ⟨by decide, by decide, by decide⟩

/-- What is written below one another in a log file does not depend on the handlers before it. -/
theorem ofFile_format_of_noted {after : Record} (noted : r.Noted after) :
    ofFile.format after = ofFile.format r :=
  layOut_of_noted ofFile_renews noted

end Formatter

/-! ## Handlers -/

namespace Handler

/-- The formatter that a handler has, or the one that stands in for it. -/
def layout (h : Handler) : Formatter := h.formatter.getD ⟨Formatter.messageAlone, false⟩

/-- The handler of the console, as a setup makes it. -/
def ofConsole (level : Int) (f : Formatter) : Handler := ⟨.console, level, some f⟩

/-- The handler of a log file, as a setup makes it. -/
def ofFile (path : Text) (level : Int) : Handler := ⟨.file path, level, some Formatter.ofFile⟩

end Handler

namespace Logging

variable {s s' : Logging} {h : Handler}

/-- The outcome of laying a record out at the end of a target: a line if there is one. -/
def addLine (s : Logging) (target : Target) : Except FormatFault Text → Logging
  | .ok t => s.append target (t ++ [.char '\n'])
  | .error _ => s

theorem deliver_eq (s : Logging) (r : Record) (writes : h.target ≠ .nowhere) :
    deliver (s, r) h = (s.addLine h.target (h.layout.format r), (h.layout.formatted r).2) := by
  unfold deliver
  dsimp only
  split
  · next nowhere => exact absurd nowhere writes
  · next target _ =>
    rw [Formatter.format, Handler.layout]
    rcases (h.formatter.getD ⟨Formatter.messageAlone, false⟩).formatted r with ⟨fault | t, after⟩ <;>
      rfl

theorem deliver_nowhere (s : Logging) (r : Record) (writes : h.target = .nowhere) :
    deliver (s, r) h = (s, r) := by
  unfold deliver
  rw [writes]

theorem handleBy_noted (s : Logging) (r : Record) (h : Handler) : r.Noted (handleBy (s, r) h).2 := by
  unfold handleBy
  split
  · exact .refl r
  · by_cases nowhere : h.target = .nowhere
    · rw [deliver_nowhere s r nowhere]
      exact .refl r
    · rw [deliver_eq s r nowhere]
      exact h.layout.formatted_noted r

theorem addLine_files (same : s.files = s'.files) (target : Target)
    (outcome : Except FormatFault Text) :
    (s.addLine target outcome).files = (s'.addLine target outcome).files := by
  cases outcome with
  | error fault => exact same
  | ok t =>
    cases target with
    | console | nowhere => exact same
    | file path =>
      simp only [addLine, append]
      split
      · exact same
      · simp [same]

/-- The console does not show in the files. -/
theorem addLine_console_files (s : Logging) (outcome : Except FormatFault Text) :
    (s.addLine .console outcome).files = s.files := by
  cases outcome <;> rfl

/-- What a handler does to the files and the record, it does whatever else was written. -/
theorem handleBy_files (same : s.files = s'.files) (r : Record) (h : Handler) :
    (handleBy (s, r) h).1.files = (handleBy (s', r) h).1.files ∧
    (handleBy (s, r) h).2 = (handleBy (s', r) h).2 := by
  unfold handleBy
  split
  · exact ⟨same, rfl⟩
  · by_cases nowhere : h.target = .nowhere
    · rw [deliver_nowhere s r nowhere, deliver_nowhere s' r nowhere]
      exact ⟨same, rfl⟩
    · rw [deliver_eq s r nowhere, deliver_eq s' r nowhere]
      exact ⟨addLine_files same _ _, rfl⟩

theorem foldl_handleBy_files (same : s.files = s'.files) (r : Record) (handlers : List Handler) :
    (handlers.foldl handleBy (s, r)).1.files = (handlers.foldl handleBy (s', r)).1.files := by
  induction handlers generalizing s s' r with
  | nil => exact same
  | cons h rest ih =>
    obtain ⟨files, record⟩ := handleBy_files same r h
    have step := ih files (handleBy (s, r) h).2
    rw [List.foldl_cons, List.foldl_cons]
    rw [← Prod.eta (handleBy (s', r) h), ← record]
    exact step

end Logging

end ControlPlaneMetrics.Log
