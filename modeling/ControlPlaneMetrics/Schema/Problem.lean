import ControlPlaneMetrics.Text.Basic

/-!
What a schema finds wrong with a value, and where. A report lists the problems in
the order of the schema's fields.
-/
namespace ControlPlaneMetrics.Schema

inductive Flaw where
  | missing
  | notText
  | textNotUnicode
  | notInteger
  | integerUnreadable
  | integerFractional
  | integerTooLarge
  | notFinite
  | notNumber
  | numberUnreadable
  | notTruth
  | truthUnreadable
  /-- The value is below zero or no number. -/
  | belowZero
  /-- The value is zero, below it, or no number. -/
  | notPositive
  /-- The value is no object where the named one is described. -/
  | notRecord (record : Text)
  | notObject
  deriving DecidableEq

namespace Flaw

def code : Flaw → Text
  | missing => Text.ofString "missing"
  | notText => Text.ofString "string_type"
  | textNotUnicode => Text.ofString "string_unicode"
  | notInteger => Text.ofString "int_type"
  | integerUnreadable => Text.ofString "int_parsing"
  | integerFractional => Text.ofString "int_from_float"
  | integerTooLarge => Text.ofString "int_parsing_size"
  | notFinite => Text.ofString "finite_number"
  | notNumber => Text.ofString "float_type"
  | numberUnreadable => Text.ofString "float_parsing"
  | notTruth => Text.ofString "bool_type"
  | truthUnreadable => Text.ofString "bool_parsing"
  | belowZero => Text.ofString "greater_than_equal"
  | notPositive => Text.ofString "greater_than"
  | notRecord _ => Text.ofString "model_type"
  | notObject => Text.ofString "dict_type"

def message : Flaw → Text
  | missing => Text.ofString "Field required"
  | notText => Text.ofString "Input should be a valid string"
  | textNotUnicode =>
    Text.ofString "Input should be a valid string, unable to parse raw data as a unicode string"
  | notInteger => Text.ofString "Input should be a valid integer"
  | integerUnreadable =>
    Text.ofString "Input should be a valid integer, unable to parse string as an integer"
  | integerFractional =>
    Text.ofString "Input should be a valid integer, got a number with a fractional part"
  | integerTooLarge =>
    Text.ofString "Unable to parse input string as an integer, exceeded maximum size"
  | notFinite => Text.ofString "Input should be a finite number"
  | notNumber => Text.ofString "Input should be a valid number"
  | numberUnreadable =>
    Text.ofString "Input should be a valid number, unable to parse string as a number"
  | notTruth => Text.ofString "Input should be a valid boolean"
  | truthUnreadable => Text.ofString "Input should be a valid boolean, unable to interpret input"
  | belowZero => Text.ofString "Input should be greater than or equal to 0"
  | notPositive => Text.ofString "Input should be greater than 0"
  | notRecord record =>
    Text.ofString "Input should be a valid dictionary or instance of " ++ record
  | notObject => Text.ofString "Input should be a valid dictionary"

end Flaw

structure Problem where
  /-- The names of the members on the way to the value, outermost first. -/
  location : List Text
  flaw : Flaw
  deriving DecidableEq

def Problem.under (name : Text) (problem : Problem) : Problem :=
  { problem with location := name :: problem.location }

structure Report where
  record : Text
  problems : List Problem
  deriving DecidableEq

def Report.headline (report : Report) : Text :=
  let count := report.problems.length
  Text.ofNat count ++
    Text.ofString (if count = 1 then " validation error for " else " validation errors for ") ++
    report.record

/-- A value, or all problems that were found, in order. -/
abbrev Checked (α : Type) := Except (List Problem) α

namespace Checked

def flawed (flaw : Flaw) : Checked α := .error [⟨[], flaw⟩]

/-- Both values, or the problems of the first and then of the second. -/
def both : Checked α → Checked β → Checked (α × β)
  | .ok a, .ok b => .ok (a, b)
  | .ok _, .error q => .error q
  | .error p, .ok _ => .error p
  | .error p, .error q => .error (p ++ q)

def under (name : Text) : Checked α → Checked α
  | .ok a => .ok a
  | .error problems => .error (problems.map (·.under name))

end Checked

end ControlPlaneMetrics.Schema
