import ControlPlaneMetrics.Log.Record
import ControlPlaneMetrics.Text.Word

/-!
Formatters lay out a record by a pattern over its fields, with what the record tells
of on lines below. A colored one wraps the level's name in the color of the level, in a
copy of the record.
-/
namespace ControlPlaneMetrics.Log

inductive FormatFault where
  | pattern (fault : PatternFault)
  | invalidPattern (pattern : Text)
  | fieldAbsent (name : Text)
  | patternNotText (kind : Text)
  deriving DecidableEq

def FormatFault.message : FormatFault → Text
  | pattern fault => fault.message
  | invalidPattern t =>
    Text.ofString "Invalid format '" ++ t ++ Text.ofString "' for '%' style"
  | fieldAbsent name => Text.ofString "Formatting field not found in record: " ++ name.quoted
  | patternNotText kind =>
    Text.ofString "expected string or bytes-like object, got '" ++ kind ++ Text.ofString "'"

structure Formatter where
  pattern : Text
  colored : Bool
  deriving DecidableEq

namespace Formatter

/-- The letters that may end a conversion, of either case. -/
def conversionLetters : List CodePoint :=
  "diouxefgcrsa%DIOUXEFGCRSA\u0130\u0131\u017F".toList.map .char

/-- What follows a star or a run of digits of any script, if one is there. -/
def dropSize? : Text → Option Text
  | .char '*' :: t => some t
  | t =>
    if (t.head?.bind CodePoint.decimal?).isSome then
      some (t.dropWhile fun c => c.decimal?.isSome)
    else none

/-- Whether a conversion with a name that is a word begins the text. -/
def beginsField (t : Text) : Bool :=
  match t with
  | .char '%' :: .char '(' :: t =>
    let name := t.takeWhile CodePoint.isWord
    match t.dropWhile CodePoint.isWord with
    | .char ')' :: t =>
      let t := t.dropWhile isFlag
      let t := (dropSize? t).getD t
      let t := match t with
        | .char '.' :: u => (dropSize? u).getD t
        | t => t
      !name.isEmpty && (t.head?.any conversionLetters.contains)
    | _ => false
  | _ => false

def showsField : Text → Bool
  | [] => false
  | c :: t => beginsField (c :: t) || showsField t

def messageAlone : Text := Text.ofString "%(message)s"

/-- The formatter of a pattern, which must show a field. -/
def ofPattern (colored : Bool) (pattern : Value) : Except FormatFault Formatter :=
  if ¬pattern.isTruthy then .ok ⟨messageAlone, colored⟩
  else match pattern with
  | .text t => if showsField t then .ok ⟨t, colored⟩ else .error (.invalidPattern t)
  | v => .error (.patternNotText v.kindName)

def reset : Text := Text.ofString "\x1b[0m"

def colors : List (Text × Text) :=
  [("DEBUG", "\x1b[36m"), ("INFO", "\x1b[32m"), ("WARNING", "\x1b[33m"), ("ERROR", "\x1b[31m"),
    ("CRITICAL", "\x1b[35m")].map fun (name, code) => (Text.ofString name, Text.ofString code)

/-- The code before the name of a level; a name without a color is shown as all else is. -/
def color (name : Text) : Text := (lookup? name colors).getD reset

/-- The name of a level between the codes of its color. -/
def wrapped (name : Text) : Text := color name ++ name ++ reset

def usesTime (f : Formatter) : Bool := Text.containsText (Text.ofString "%(asctime)") f.pattern

def fill (f : Formatter) (r : Record) : Except FormatFault Text :=
  (fillByName f.pattern (.value (.object [])) (lookup? · r.fields)).mapError fun
    | .fieldAbsent name => .fieldAbsent name
    | fault => .pattern fault

/-- A line with a text below it, if there is one. -/
def above (line : Text) : Option Text → Text
  | none => line
  | some [] => line
  | some (c :: t) =>
    let lineEnd : CodePoint := '\n'
    (if line.getLast? = some lineEnd then line else line ++ [lineEnd]) ++ c :: t

/-- The line of the record and what it tells of below, and the record with what was noted. -/
def layOut (f : Formatter) (r : Record) : Except FormatFault Text × Record :=
  match r.message with
  | .error fault => (.error (.pattern fault), r)
  | .ok message =>
    let r := r.note message f.usesTime
    match f.fill r with
    | .error fault => (.error fault, r)
    | .ok line =>
      let r := r.noteTrace
      (.ok (above (above line r.notes.trace?) r.calls), r)

/-- What a formatter makes of a record, and the record as it is left. Colors go into a copy, so that
other handlers still see the plain name of the level. -/
def formatted (f : Formatter) (r : Record) : Except FormatFault Text × Record :=
  if f.colored then ((f.layOut { r with shownLevel := wrapped r.shownLevel }).1, r)
  else f.layOut r

def format (f : Formatter) (r : Record) : Except FormatFault Text := (f.formatted r).1

end Formatter

end ControlPlaneMetrics.Log
