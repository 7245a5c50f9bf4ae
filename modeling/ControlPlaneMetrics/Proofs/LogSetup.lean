import ControlPlaneMetrics.Proofs.LayingOut
import Mathlib.Data.List.Forall2

/-!
Setups of logging one after the other. Each takes all handlers away before it adds its own, so that
the last one alone decides which handlers there are and at which level. Logging a record changes
none of this, and each handler gets the record at most once.
-/
namespace ControlPlaneMetrics.Log

variable {s : Logging} {r : Record} {level : Int} {console : Formatter} {path? : Option Text}
  {t logger : Text}

/-! ## Names of levels -/

/-- The levels that a setup may name. -/
def setupLevels : List Int := [10, 20, 30, 40, 50]

/-- The value is the name of the level, in letters of any case. -/
def Spells (v : Value) (level : Int) : Prop :=
  level ∈ setupLevels ∧ ∃ t, v = .text t ∧ t.upper = levelName level

theorem levelNamed_of_spells {v : Value} (spells : Spells v level) : levelNamed v = .ok level := by
  obtain ⟨known, t, rfl, named⟩ := spells
  simp only [setupLevels, List.mem_cons, List.not_mem_nil, or_false] at known
  rw [levelNamed, named]
  rcases known with rfl | rfl | rfl | rfl | rfl <;> decide

def smallLetter : CodePoint → CodePoint
  | .char c => .char c.toLower
  | c => c

/-- Each capital letter of the name may be a small one instead. -/
def AnyCase (t name : Text) : Prop := List.Forall₂ (fun c d => c = d ∨ c = smallLetter d) t name

theorem upper_of_anyCase {name : Text} (any : AnyCase t name)
    (capital : ∀ d ∈ name, Text.upper [d] = [d] ∧ Text.upper [smallLetter d] = [d]) :
    t.upper = name := by
  induction any with
  | nil => rfl
  | @cons c d t name own _ ih =>
    obtain ⟨here, others⟩ := List.forall_mem_cons.mp capital
    have first : Text.upper [c] = [d] := by
      rcases own with rfl | rfl
      · exact here.1
      · exact here.2
    have split : Text.upper (c :: t) = Text.upper [c] ++ Text.upper t := by
      simp [Text.upper]
    rw [split, first, ih others]
    rfl

/-- Any mixture of small and capital letters will do. -/
theorem spells_of_anyCase (known : level ∈ setupLevels) (any : AnyCase t (levelName level)) :
    Spells (.text t) level := by
  refine ⟨known, t, rfl, upper_of_anyCase any ?_⟩
  simp only [setupLevels, List.mem_cons, List.not_mem_nil, or_false] at known
  rcases known with rfl | rfl | rfl | rfl | rfl <;> decide

/-! ## What logging leaves alone -/

namespace Logging

/-- What a setup decides. -/
def setup (s : Logging) : Int × List Handler × Int := (s.rootLevel, s.handlers, s.libraryLevel)

theorem addLine_setup (s : Logging) (target : Target) (outcome : Except FormatFault Text) :
    (s.addLine target outcome).setup = s.setup := by
  cases outcome with
  | error fault => rfl
  | ok t =>
    cases target with
    | console | nowhere => rfl
    | file path =>
      simp only [addLine, append]
      split <;> rfl

theorem deliver_setup (s : Logging) (r : Record) (h : Handler) :
    (deliver (s, r) h).1.setup = s.setup := by
  by_cases nowhere : h.target = .nowhere
  · rw [deliver_nowhere s r nowhere]
  · rw [deliver_eq s r nowhere, addLine_setup]

theorem handleBy_setup (s : Logging) (r : Record) (h : Handler) :
    (handleBy (s, r) h).1.setup = s.setup := by
  unfold handleBy
  split
  · rfl
  · exact deliver_setup s r h

theorem foldl_handleBy_setup (s : Logging) (r : Record) (handlers : List Handler) :
    (handlers.foldl handleBy (s, r)).1.setup = s.setup := by
  induction handlers generalizing s r with
  | nil => rfl
  | cons h rest ih =>
    exact (ih (handleBy (s, r) h).1 (handleBy (s, r) h).2).trans (handleBy_setup s r h)

theorem handle_setup (s : Logging) (r : Record) : (s.handle r).setup = s.setup := by
  unfold handle
  split
  · rfl
  · exact foldl_handleBy_setup s r s.handlers

/-! ## Who gets a record -/

/-- The handlers that get a record, in order. -/
def receivers (s : Logging) (r : Record) : List Handler :=
  if r.level < s.admittedLevel r.logger then [] else s.handlers.filter (·.level ≤ r.level)

theorem foldl_handleBy_eq (s : Logging) (r : Record) (handlers : List Handler) :
    handlers.foldl handleBy (s, r) =
      (handlers.filter (·.level ≤ r.level)).foldl deliver (s, r) := by
  induction handlers generalizing s r with
  | nil => rfl
  | cons h rest ih =>
    -- No handler changes the level of the record, so that all can be chosen by the level at first.
    have level := (handleBy_noted s r h).level
    have later := ih (handleBy (s, r) h).1 (handleBy (s, r) h).2
    rw [level] at later
    rw [List.foldl_cons, later]
    by_cases below : r.level < h.level
    · simp [handleBy, below]
    · simp [handleBy, below, Int.not_lt.mp below]

/-- Logging a record is to give it to its receivers, to each of them once. -/
theorem handle_eq (s : Logging) (r : Record) :
    s.handle r = ((s.receivers r).foldl deliver (s, r)).1 := by
  unfold handle receivers
  split
  · rfl
  · rw [foldl_handleBy_eq]

/-- The logger is none of a quieted library, and not below one. -/
def Inherits (logger : Text) : Prop :=
  ∀ library ∈ noisyLibraries, logger ≠ library ∧ ¬library ++ [.char '.'] <+: logger

instance (logger : Text) : Decidable (Inherits logger) :=
  inferInstanceAs (Decidable (∀ library ∈ noisyLibraries, _))

theorem admittedLevel_of_inherits (s : Logging) (inherits : Inherits logger) :
    s.admittedLevel logger = s.rootLevel := by
  unfold admittedLevel
  refine if_neg fun ⟨_, below⟩ => ?_
  obtain ⟨library, member, below⟩ := List.any_eq_true.mp below
  obtain ⟨apart, outside⟩ := inherits library member
  split at below
  · next whole => exact apart (by simpa using Text.eq_append_of_dropStart? whole)
  · next c rest part =>
    obtain rfl : c = .char '.' := of_decide_eq_true below
    exact outside ⟨rest, by simp [Text.eq_append_of_dropStart? part]⟩
  · cases below

theorem admittedLevel_of_noisy (quieted : s.libraryLevel ≠ 0) {library : Text}
    (member : library ∈ noisyLibraries) : s.admittedLevel library = s.libraryLevel := by
  have whole : Text.dropStart? library library = some [] := by
    simpa using Text.dropStart?_append library []
  unfold admittedLevel
  exact if_pos ⟨quieted, List.any_eq_true.mpr ⟨library, member, by simp [whole]⟩⟩

/-! ## One setup -/

/-- Handlers are taken away one by one until there are none. -/
theorem removeHandlers_eq (s : Logging) : s.removeHandlers = { s with handlers := [] } := by
  -- What is left to go through is what is left to take away, so each step takes the first.
  have each (handlers : List Handler) :
      handlers.foldl removeHandler { s with handlers := handlers } = { s with handlers := [] } := by
    induction handlers with
    | nil => rfl
    | cons h rest ih => simpa [removeHandler] using ih
  exact each s.handlers

end Logging

/-- The file that the options name, if they name one. -/
def SetupOptions.logFile? (options : SetupOptions) : Option Text :=
  match options.file with
  | .text (c :: path) => some (c :: path)
  | _ => none

/-- The handlers of a setup: one for the console, and one for the log file if there is one. -/
def setupHandlers (level : Int) (console : Formatter) (path? : Option Text) : List Handler :=
  .ofConsole level console :: path?.toList.map (.ofFile · level)

namespace Logging

theorem openFile_setup {after : Logging} {unopened : Text → Option FileFault}
    (options : SetupOptions) (opened : s.openFile unopened level options.file = .ok after) :
    after.rootLevel = s.rootLevel ∧
    after.handlers = s.handlers ++ options.logFile?.toList.map (Handler.ofFile · level) := by
  unfold openFile at opened
  split at opened
  · next empty =>
    have none : options.logFile? = none := by
      unfold SetupOptions.logFile?
      split
      · next named => simp [named, Value.isTruthy] at empty
      · rfl
    cases opened
    simp [none]
  · next named =>
    cases file : options.file with
    | text path =>
      rw [file] at opened named
      cases path with
      | nil => simp [Value.isTruthy] at named
      | cons c path =>
        dsimp only at opened
        split at opened
        · cases opened
        · cases opened
          simp [SetupOptions.logFile?, file, addHandler, Handler.ofFile, Formatter.ofFile]
    | _ =>
      rw [file] at opened
      cases opened

/-- The state of a setup at a level, with that formatter for the console, and maybe a log file. -/
structure Settled (s : Logging) (level : Int) (console : Formatter) (path? : Option Text) :
    Prop where
  handlers : s.handlers = setupHandlers level console path?
  root : s.rootLevel = level
  quieted : s.libraryLevel = 30

theorem settled_iff :
    s.Settled level console path? ↔ s.setup = (level, setupHandlers level console path?, 30) := by
  rw [setup, Prod.mk.injEq, Prod.mk.injEq]
  exact ⟨fun ⟨handlers, root, quieted⟩ => ⟨root, handlers, quieted⟩,
    fun ⟨root, handlers, quieted⟩ => ⟨handlers, root, quieted⟩⟩

theorem Settled.handle (settled : s.Settled level console path?) (r : Record) :
    (s.handle r).Settled level console path? := by
  rw [settled_iff, handle_setup]
  exact settled_iff.mp settled

theorem Settled.foldl_handle (settled : s.Settled level console path?) {α : Type}
    (record : α → Record) (said : List α) :
    (said.foldl (fun s a => s.handle (record a)) s).Settled level console path? := by
  induction said generalizing s with
  | nil => exact settled
  | cons a rest ih => exact ih (settled.handle (record a))

/-- A setup that succeeds settles everything, whatever there was before. -/
theorem configure_settled {unopened : Text → Option FileFault} {options : SetupOptions}
    {terminal : Bool} {now : Value} (named : levelNamed options.level = .ok level)
    (succeeds : (s.configure unopened options terminal now).2 = none) :
    ∃ console, Formatter.ofPattern (options.colors && terminal) options.pattern = .ok console ∧
      (s.configure unopened options terminal now).1.Settled level console options.logFile? := by
  unfold configure at succeeds ⊢
  simp only [named] at succeeds ⊢
  cases read : Formatter.ofPattern (options.colors && terminal) options.pattern with
  | error fault =>
    rw [read] at succeeds
    cases succeeds
  | ok console =>
    simp only [read, removeHandlers_eq] at succeeds ⊢
    refine ⟨console, rfl, ?_⟩
    split
    · next fault refused =>
      rw [refused] at succeeds
      cases succeeds
    · next after opened =>
      obtain ⟨root, handlers⟩ := openFile_setup options opened
      -- The libraries are quieted after the handlers are there; the remarks then change nothing.
      have settled :
          { after with libraryLevel := 30 }.Settled level console options.logFile? :=
        ⟨handlers, root, rfl⟩
      exact settled.foldl_handle _ options.remarks

/-! ## Settled states -/

/-- The state after a line on the console, and one in the log file if there is one. -/
def writeOnce (s : Logging) (console : Formatter) (path? : Option Text) (r : Record) : Logging :=
  let shown := s.addLine .console (console.format r)
  path?.elim shown fun path => shown.addLine (.file path) (Formatter.ofFile.format r)

theorem foldl_deliver_setupHandlers (s : Logging) (r : Record) (level : Int) (console : Formatter)
    (path? : Option Text) :
    ((setupHandlers level console path?).foldl deliver (s, r)).1 = s.writeOnce console path? r := by
  have first := s.deliver_eq r (h := .ofConsole level console) nofun
  rw [setupHandlers, List.foldl_cons, first]
  cases path? with
  | none => rfl
  | some path =>
    have noted := console.formatted_noted r
    have second := (s.addLine .console (console.format r)).deliver_eq (console.formatted r).2
      (h := .ofFile path level) nofun
    rw [Handler.layout, Handler.ofFile, Option.getD_some,
      Formatter.ofFile_format_of_noted noted] at second
    exact congrArg Prod.fst second

/-- What becomes of a record: each handler gets it once if it reaches their level, and writes the one
line of it that it would write alone; else nothing changes. -/
structure HandledOnce (s : Logging) (level : Int) (console : Formatter) (path? : Option Text)
    (r : Record) : Prop where
  receivers : s.receivers r = if level ≤ r.level then setupHandlers level console path? else []
  handle : s.handle r = ((s.receivers r).foldl deliver (s, r)).1
  written : s.handle r = if level ≤ r.level then s.writeOnce console path? r else s

theorem Settled.handledOnce (settled : s.Settled level console path?)
    (inherits : Inherits r.logger) : s.HandledOnce level console path? r := by
  have admitted : s.admittedLevel r.logger = level :=
    (s.admittedLevel_of_inherits inherits).trans settled.root
  have alike : ∀ h ∈ setupHandlers level console path?, h.level = level := by
    simp [setupHandlers, Handler.ofConsole, Handler.ofFile]
  have receivers : s.receivers r =
      if level ≤ r.level then setupHandlers level console path? else [] := by
    unfold Logging.receivers
    rw [admitted, settled.handlers]
    by_cases reached : level ≤ r.level
    · rw [if_neg (Int.not_lt.mpr reached), if_pos reached, List.filter_eq_self]
      intro h member
      simpa [alike h member] using reached
    · rw [if_pos (Int.not_le.mp reached), if_neg reached]
  refine ⟨receivers, s.handle_eq r, ?_⟩
  rw [handle_eq, receivers]
  split
  · exact foldl_deliver_setupHandlers s r level console path?
  · rfl

/-! ## Setups and records in any order -/

end Logging

/-- A setup, with what it finds: which log files cannot be opened, whether the console is a terminal,
and the time. -/
structure SetupCall where
  unopened : Text → Option FileFault
  options : SetupOptions
  terminal : Bool
  now : Value

inductive LogEvent where
  | setUp (call : SetupCall)
  | record (r : Record)

namespace Logging

def setUp (s : Logging) (call : SetupCall) : Logging × Option SetupFault :=
  s.configure call.unopened call.options call.terminal call.now

def next (s : Logging) : LogEvent → Logging
  | .setUp call => (s.setUp call).1
  | .record r => s.handle r

def run (s : Logging) (events : List LogEvent) : Logging := events.foldl next s

theorem run_last_setup (s : Logging) (before : List LogEvent) (last : SetupCall)
    (later : List Record) :
    s.run (before ++ .setUp last :: later.map .record) =
      later.foldl handle ((s.run before).setUp last).1 := by
  rw [run, List.foldl_append, List.foldl_cons, List.foldl_map]
  rfl

/-- However often logging was set up before and whatever handlers there were, after a setup that
succeeds, and any records after it, there are one handler for the console and one for the log file if
the last setup names one, all at the level that the last setup names, as the root is. Libraries that
log every request are admitted from warnings on. Records of all other loggers are handled once by
each handler if they reach the level, and by no other. -/
theorem last_setup_decides (s : Logging) (before : List LogEvent) {last : SetupCall} {level : Int}
    (spells : Spells last.options.level level)
    (succeeds : ((s.run before).setUp last).2 = none) :
    ∃ console,
      Formatter.ofPattern (last.options.colors && last.terminal) last.options.pattern = .ok console ∧
      ∀ later : List Record,
        let after := s.run (before ++ .setUp last :: later.map .record)
        after.Settled level console last.options.logFile? ∧
        (∀ library ∈ noisyLibraries, after.admittedLevel library = 30) ∧
        ∀ r, Inherits r.logger → after.HandledOnce level console last.options.logFile? r := by
  obtain ⟨console, read, settled⟩ := configure_settled (levelNamed_of_spells spells) succeeds
  refine ⟨console, read, fun later => ?_⟩
  have kept := settled.foldl_handle id later
  intro after
  have settled : after.Settled level console last.options.logFile? := by
    rw [show after = _ from s.run_last_setup before last later]
    exact kept
  refine ⟨settled, fun library member => ?_, fun r inherits => settled.handledOnce inherits⟩
  have quieted : after.libraryLevel ≠ 0 := settled.quieted ▸ by decide
  rw [admittedLevel_of_noisy quieted member, settled.quieted]

/-- Three handlers, two of them alike. -/
def crowded : Logging where
  rootLevel := 10
  handlers := [⟨.nowhere, 0, none⟩, ⟨.console, 10, none⟩, ⟨.console, 10, none⟩]
  libraryLevel := 0
  console := []
  files := []

/-- A setup with a log file, on a terminal. -/
def setUpAt (level file : String) : SetupCall where
  unopened _ := none
  options := { level := .text (Text.ofString level), file := .text (Text.ofString file) }
  terminal := true
  now := .int 0

/-- A record of one word. -/
def remark (level : Int) : Record where
  level := level
  logger := Text.ofString "core.aggregator"
  template := .text (Text.ofString "flushed")
  arguments := []
  created := .int 0
  milliseconds := 0
  path := Text.ofString "/x/aggregator.py"
  line := 7
  function := Text.ofString "flush"

/-- The first setup names another file and the second none; of two records after the third, one
reaches its level. -/
theorem third_setup_decides :
    let before : List LogEvent := [.setUp (setUpAt "debug" "first.log"), .record (remark 10),
      .setUp (setUpAt "Error" "")]
    let last := setUpAt "wArNiNg" "second.log"
    let path := Text.ofString "second.log"
    let after := crowded.run (before ++ .setUp last :: [remark 20].map .record)
    Spells last.options.level 30 ∧ ((crowded.run before).setUp last).2 = none ∧
    after.handlers = [.ofConsole 30 ⟨consolePattern, true⟩, .ofFile path 30] ∧
    after.rootLevel = 30 ∧ after.admittedLevel (Text.ofString "kubernetes") = 30 ∧
    after.receivers (remark 20) = [] ∧ after.handle (remark 20) = after ∧
    after.receivers (remark 30) = after.handlers ∧
    after.handle (remark 30) = after.writeOnce ⟨consolePattern, true⟩ (some path) (remark 30) ∧
    lookup? path (after.handle (remark 30)).files = some (Text.ofString
      "1970-01-01 00:00:00,000 - core.aggregator - WARNING - aggregator:flush:7 - flushed\n") := by
  intro before last path after
  have spells : Spells last.options.level 30 :=
    spells_of_anyCase (by decide) (by unfold AnyCase; decide)
  have succeeds : ((crowded.run before).setUp last).2 = none := by decide +kernel
  have console : Formatter.ofPattern true last.options.pattern = .ok ⟨consolePattern, true⟩ := by
    decide +kernel
  obtain ⟨f, read, settles⟩ := last_setup_decides crowded before spells succeeds
  obtain rfl : f = ⟨consolePattern, true⟩ := Except.ok.inj (read.symm.trans console)
  obtain ⟨settled, noisy, handled⟩ := settles [remark 20]
  have missed := handled (remark 20) (by decide)
  have reached := handled (remark 30) (by decide)
  refine ⟨spells, succeeds, settled.handlers, settled.root, noisy _ (by decide),
    missed.receivers, missed.written, ?_, reached.written, by decide +kernel⟩
  exact reached.receivers.trans settled.handlers.symm

end Logging

end ControlPlaneMetrics.Log
