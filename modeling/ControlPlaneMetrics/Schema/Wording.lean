import ControlPlaneMetrics.Schema.Problem
import ControlPlaneMetrics.Text.Encoding
import ControlPlaneMetrics.Value

/-!
How a report is worded for a value: its headline, and below it for each problem where it is, what
it is, and what stands there in the value. A long input is shown without its middle. The line
that points to an explanation of the problem's code, which a release of the schema language may
add, is left out.
-/
namespace ControlPlaneMetrics

namespace Text

/-- The longest beginning of the text that fits into so many octets of UTF-8. -/
def fitting (room : Nat) : Text → Text
  | [] => []
  | c :: t =>
    let octets := Encoding.utf8Octets c.toNat
    if octets.length ≤ room then c :: fitting (room - octets.length) t else []

/-- The text if it fits into fifty octets, and else without its middle. -/
def shortened (t : Text) : Text :=
  if fitting 50 t = t then t
  else fitting 25 t ++ ofString "..." ++ (fitting 24 t.reverse).reverse

end Text

namespace Schema

/-- What stands at a place inside a value. -/
def valueAt : List Text → Value → Value
  | [], v => v
  | name :: place, v => valueAt place ((v.member? name).getD .null)

namespace Problem

/-- What a problem is shown with: the value at its place, or the object that lacks one. -/
def input (problem : Problem) (v : Value) : Value :=
  match problem.flaw with
  | .missing => valueAt problem.location.dropLast v
  | _ => valueAt problem.location v

def text (v : Value) (problem : Problem) : Text :=
  let place := if problem.location.isEmpty then []
    else Text.joinWith [.char '.'] problem.location ++ [.char '\n']
  let input := problem.input v
  place ++ Text.ofString "  " ++ problem.flaw.message ++ Text.ofString " [type=" ++
    problem.flaw.code ++ Text.ofString ", input_value=" ++ input.inspected.shortened ++
    Text.ofString ", input_type=" ++ input.kindName ++ [.char ']']

end Problem

def Report.text (report : Report) (v : Value) : Text :=
  report.headline ++ report.problems.flatMap fun problem => .char '\n' :: problem.text v

/-- An object that lacks a member is shown whole. -/
example : (Report.mk (Text.ofString "AWSMachineProviderConfig")
    [⟨[Text.ofString "instanceType"], .missing⟩]).text
      (.object [(Text.ofString "note", .int 1)]) =
    Text.ofString ("1 validation error for AWSMachineProviderConfig\ninstanceType\n" ++
      "  Field required [type=missing, input_value=\x7b'note': 1\x7d, input_type=dict]") := by
  decide +kernel

end Schema

end ControlPlaneMetrics
