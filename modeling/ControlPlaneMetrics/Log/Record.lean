import ControlPlaneMetrics.Calendar
import ControlPlaneMetrics.Log.Line
import ControlPlaneMetrics.Log.Pattern

/-!
A record of one event: its level, its message with arguments, and where and when it
was made. Formatters see a record as a set of named fields, and leave notes in it of
what they laid out.
-/
namespace ControlPlaneMetrics.Log

/-- The name of a level. Levels between the named ones are called by their number. -/
def levelName (level : Int) : Text :=
  if level = 0 then Text.ofString "NOTSET"
  else if level = 10 then Text.ofString "DEBUG"
  else if level = 20 then Text.ofString "INFO"
  else if level = 30 then Text.ofString "WARNING"
  else if level = 40 then Text.ofString "ERROR"
  else if level = 50 then Text.ofString "CRITICAL"
  else Text.ofString "Level " ++ Text.ofInt level

structure Incident where
  shown : Argument
  trace : Text

/-- What formatters have noted in a record: the message, the time and the trace that they laid
out. -/
structure Notes where
  message? : Option Text := none
  time? : Option Text := none
  trace? : Option Text := none

structure Record where
  level : Int
  logger : Text
  template : Value
  arguments : List Value
  created : Value
  milliseconds : Nat
  path : Text
  line : Int
  function : Text
  /-- The name that patterns show for the level. -/
  shownLevel : Text := levelName level
  incident : Option Incident := none
  /-- The calls that led to the record, on lines of their own. -/
  calls : Option Text := none
  notes : Notes := {}
  /-- Further fields by name, none of them among those that every record has. -/
  others : List (Text × Argument) := []

/-- The record of a line at a time. A line does not know where in the program it was made. -/
def Line.record (created : Value) (l : Line) : Record where
  level := l.severity.level
  logger := l.source.name
  template := .text l.text
  arguments := []
  created := created
  milliseconds := 0
  path := l.source.name
  line := 0
  function := []

namespace Record

def fileName (path : Text) : Text :=
  let mark : CodePoint := '/'
  (path.reverse.takeWhile (· ≠ mark)).reverse

/-- A file name without its extension; points at its beginning start no extension. -/
def stem (name : Text) : Text :=
  let point : CodePoint := '.'
  match (name.reverse.dropWhile (· ≠ point)) with
  | [] => name
  | _ :: root => if root.all (· = point) then name else root.reverse

def named? (r : Record) : Option (List (Text × Value)) :=
  match r.arguments with
  | [.object members] => if members.isEmpty then none else some members
  | _ => none

/-- The template filled with the arguments; as it is if there are none. -/
def message (r : Record) : Except PatternFault Text :=
  match r.named? with
  | some members =>
    fillByName r.template.display (.value (.object members)) fun name =>
      (lookup? name members).map .value
  | none =>
    if r.arguments.isEmpty then .ok r.template.display
    else fillInOrder r.template.display r.arguments

def seconds (r : Record) : Int :=
  match r.created with
  | .float x => match x with
    | .finite negative coefficient exponent _ =>
      let (num, den) := Binary64.scaleTwo coefficient 1 exponent
      Int.fdiv (if negative then -num else num) den
    | _ => 0
  | v => v.integer?.getD 0

/-- The time of the record, with milliseconds after a comma. -/
def time (r : Record) : Text :=
  let (date, time) := Calendar.dateTimeOfSeconds r.seconds
  Calendar.dateTimeText date time ++ .char ',' :: Calendar.padded 3 r.milliseconds

/-- The record with its message noted, and its time if that is asked for. -/
def note (r : Record) (message : Text) (timed : Bool) : Record :=
  { r with notes := { r.notes with
      message? := some message
      time? := if timed then some r.time else r.notes.time? } }

/-- The trace that is laid out: the one that is noted, or else that of the incident. -/
def trace? (r : Record) : Option Text :=
  match r.notes.trace?, r.incident with
  | some (c :: t), _ => some (c :: t)
  | _, some incident => some incident.trace
  | noted, none => noted

def noteTrace (r : Record) : Record := { r with notes := { r.notes with trace? := r.trace? } }

def levelNameField : Text := Text.ofString "levelname"
def messageField : Text := Text.ofString "message"
def timeField : Text := Text.ofString "asctime"
def traceField : Text := Text.ofString "exc_text"

/-- The fields that a formatter sees. Message and time are fields once they are noted. -/
def fields (r : Record) : List (Text × Argument) :=
  let text (t : Text) : Argument := .value (.text t)
  let optional (t? : Option Text) : Argument := (t?.map text).getD (.value .null)
  let noted (name : Text) (t? : Option Text) : List (Text × Argument) :=
    (t?.map fun t => (name, text t)).toList
  [(Text.ofString "name", text r.logger),
    (Text.ofString "msg", .value r.template),
    (Text.ofString "args", match r.named? with
      | some members => .value (.object members)
      | none => .row r.arguments),
    (levelNameField, text r.shownLevel),
    (Text.ofString "levelno", .value (.int r.level)),
    (Text.ofString "pathname", text r.path),
    (Text.ofString "filename", text (fileName r.path)),
    (Text.ofString "module", text (stem (fileName r.path))),
    (Text.ofString "exc_info", (r.incident.map (·.shown)).getD (.value .null)),
    (traceField, optional r.notes.trace?),
    (Text.ofString "stack_info", optional r.calls),
    (Text.ofString "lineno", .value (.int r.line)),
    (Text.ofString "funcName", text r.function),
    (Text.ofString "created", .value r.created),
    (Text.ofString "msecs", .value (.float (Binary64.ofInt r.milliseconds))),
    (Text.ofString "threadName", text (Text.ofString "MainThread")),
    (Text.ofString "processName", text (Text.ofString "MainProcess"))] ++
  noted messageField r.notes.message? ++ noted timeField r.notes.time? ++ r.others

end Record

end ControlPlaneMetrics.Log
