import ControlPlaneMetrics.File
import ControlPlaneMetrics.Log.Formatter

/-!
Where records go. A setup replaces all handlers by one for the console and, if a log
file is named, one for the file, and quiets the libraries that log every request. A
record reaches the handlers if its logger admits its level, and each handler whose
level it reaches writes one line of it.
-/
namespace ControlPlaneMetrics.Log

inductive Target where
  | console
  | file (path : Text)
  | nowhere
  deriving DecidableEq

structure Handler where
  target : Target
  level : Int
  formatter : Option Formatter
  deriving DecidableEq

/-- The state of logging, with all that has been written. -/
structure Logging where
  rootLevel : Int
  handlers : List Handler
  /-- The level below which the libraries that log every request are silent; zero if they have no
  level of their own. -/
  libraryLevel : Int
  console : Text
  files : List (Text × Text)

def noisyLibraries : List Text := ["urllib3", "kubernetes", "uvicorn.access"].map Text.ofString

inductive SetupFault where
  | levelNotText (kind : Text)
  | unknownLevel (level : Text)
  | levelNotLevel (shown : Text)
  | format (fault : FormatFault)
  | pathNotText (kind : Text)
  /-- The log file, or a directory on the way to it, cannot be made or opened. -/
  | file (fault : FileFault)
  deriving DecidableEq

/-- Whether the fault is about a value that cannot be accepted, and not about its kind. -/
def SetupFault.isValueFault : SetupFault → Bool
  | unknownLevel _ => true
  | format (.invalidPattern _) => true
  | format (.fieldAbsent _) => true
  | file fault => fault.isValueFault
  | _ => false

def SetupFault.message : SetupFault → Text
  | levelNotText kind =>
    Text.ofString "'" ++ kind ++ Text.ofString "' object has no attribute 'upper'"
  | unknownLevel level => Text.ofString "Unknown level: " ++ level.quoted
  | levelNotLevel shown =>
    Text.ofString "Level not an integer or a valid string: " ++ shown
  | format fault => fault.message
  | pathNotText kind =>
    Text.ofString "expected str, bytes or os.PathLike object, not " ++ kind
  | file fault => fault.message

def consolePattern : Text :=
  Text.ofString "%(asctime)s - %(name)s - %(levelname)s - %(message)s"

def filePattern : Text :=
  Text.ofString ("%(asctime)s - %(name)s - %(levelname)s - " ++
    "%(module)s:%(funcName)s:%(lineno)d - %(message)s")

structure SetupOptions where
  level : Value := .text (Text.ofString "INFO")
  file : Value := .null
  colors : Bool := true
  pattern : Value := .text consolePattern

/-- What is said once the setup is done, and where in the program it is said. -/
def SetupOptions.remarks (options : SetupOptions) : List (Int × Text) :=
  (83, Text.ofString "Logging configured at " ++ options.level.display ++
    Text.ofString " level") ::
  if options.file.isTruthy then [(85, Text.ofString "Log file: " ++ options.file.display)] else []

/-- The levels by name; any other name stands for the level of information. -/
def namedLevels : List (Text × Int) :=
  [("DEBUG", 10), ("INFO", 20), ("WARNING", 30), ("WARN", 30), ("ERROR", 40), ("CRITICAL", 50),
    ("FATAL", 50), ("NOTSET", 0)].map fun (name, level) => (Text.ofString name, level)

/-- Two names that are taken for levels and then found to be none. -/
def basicPattern : Text := Text.ofString "%(levelname)s:%(name)s:%(message)s"

def patternStyles : Text :=
  Text.ofString ("\x7b'%': (<class 'logging.PercentStyle'>, " ++
    "'%(levelname)s:%(name)s:%(message)s'), '\x7b': (<class 'logging.StrFormatStyle'>, " ++
    "'\x7blevelname\x7d:\x7bname\x7d:\x7bmessage\x7d'), " ++
    "'$': (<class 'logging.StringTemplateStyle'>, " ++
    "'$\x7blevelname\x7d:$\x7bname\x7d:$\x7bmessage\x7d')\x7d")

/-- The level of that name, in letters of any case. -/
def levelNamed (level : Value) : Except SetupFault Int :=
  match level with
  | .text t =>
    let name := t.upper
    if name = Text.ofString "BASIC_FORMAT" then .error (.unknownLevel basicPattern)
    else if name = Text.ofString "_STYLES" then .error (.levelNotLevel patternStyles)
    else .ok ((lookup? name namedLevels).getD 20)
  | v => .error (.levelNotText v.kindName)

namespace Logging

/-- The level from which records of a logger are admitted. Loggers named after a quieted library, or
below it, follow the library's level. -/
def admittedLevel (s : Logging) (logger : Text) : Int :=
  let below (library : Text) : Bool := match Text.dropStart? library logger with
    | some [] => true
    | some (c :: _) => c = .char '.'
    | none => false
  if s.libraryLevel ≠ 0 ∧ noisyLibraries.any below then s.libraryLevel else s.rootLevel

def append (s : Logging) (target : Target) (t : Text) : Logging :=
  match target with
  | .console => { s with console := s.console ++ t }
  | .file path =>
    if t.hasSurrogate then s
    else { s with files := write path ((lookup? path s.files).getD [] ++ t) s.files }
  | .nowhere => s

/-- The state and the record after a handler handled it: a line more, unless the record cannot be
formatted. -/
def deliver (state : Logging × Record) (h : Handler) : Logging × Record :=
  let (s, r) := state
  match h.target with
  | .nowhere => (s, r)
  | target => match (h.formatter.getD ⟨Formatter.messageAlone, false⟩).formatted r with
    | (.ok t, r) => (s.append target (t ++ [.char '\n']), r)
    | (.error _, r) => (s, r)

def handleBy (state : Logging × Record) (h : Handler) : Logging × Record :=
  if state.2.level < h.level then state else deliver state h

/-- The state after a record was logged. The handlers get it one after the other, each as the one
before left it. -/
def handle (s : Logging) (r : Record) : Logging :=
  if r.level < s.admittedLevel r.logger then s else (s.handlers.foldl handleBy (s, r)).1

def addHandler (s : Logging) (h : Handler) : Logging := { s with handlers := s.handlers ++ [h] }

def removeHandler (s : Logging) (h : Handler) : Logging :=
  { s with handlers := s.handlers.erase h }

def removeHandlers (s : Logging) : Logging := s.handlers.foldl removeHandler s

/-- A line about logging itself. -/
def report (created : Value) (line : Int) (t : Text) : Record where
  level := Severity.info.level
  logger := Source.logging.name
  template := .text t
  arguments := []
  created := created
  milliseconds := 0
  path := Text.ofString "logging_config.py"
  line := line
  function := Text.ofString "setup_logging"

/-- The state with a handler for the named file, if one is named. The file is made if it is
missing; `unopened` says of a path why that fails, or why the file there cannot be opened. -/
def openFile (s : Logging) (unopened : Text → Option FileFault) (level : Int) (file : Value) :
    Except SetupFault Logging :=
  if ¬file.isTruthy then .ok s
  else match file with
    | .text path =>
      match unopened path with
      | some fault => .error (.file fault)
      | none =>
        let s := { s with files := write path ((lookup? path s.files).getD []) s.files }
        .ok (s.addHandler ⟨.file path, level, some ⟨filePattern, false⟩⟩)
    | v => .error (.pathNotText v.kindName)

/-- Logging set up anew at a time. A fault leaves what was done before it was met: the level and the
handlers are taken away first, and the libraries are quieted last. -/
def configure (s : Logging) (unopened : Text → Option FileFault) (options : SetupOptions)
    (terminal : Bool) (now : Value) : Logging × Option SetupFault :=
  match levelNamed options.level with
  | .error fault => (s, some fault)
  | .ok level =>
    let s := { s with rootLevel := level }.removeHandlers
    match Formatter.ofPattern (options.colors && terminal) options.pattern with
    | .error fault => (s, some (.format fault))
    | .ok formatter =>
      let s := s.addHandler ⟨.console, level, some formatter⟩
      match s.openFile unopened level options.file with
      | .error fault => (s, some fault)
      | .ok s =>
        let s := { s with libraryLevel := 30 }
        (options.remarks.foldl (fun s (line, t) => s.handle (report now line t)) s, none)

end Logging

end ControlPlaneMetrics.Log
