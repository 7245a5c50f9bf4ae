import ControlPlaneMetrics.Table
import ControlPlaneMetrics.Text.Blank

/-!
The environment: variables in the order in which they were first set. A text can refer
to a variable by a dollar sign and its name in braces; references to variables that
are not set stay as they are.
-/
namespace ControlPlaneMetrics.Settings

abbrev Environment := List (Text × Text)

namespace Environment

/-- The environment in which variables were set one after the other. -/
def ofList (settings : List (Text × Text)) : Environment :=
  settings.foldl (fun env (name, value) => write name value env) []

def getD (env : Environment) (name default : String) : Text :=
  (lookup? (Text.ofString name) env).getD (Text.ofString default)

/-- The variables with names in lower case; of several that become equal the last one counts. -/
def lowered (env : Environment) : Environment :=
  env.foldl (fun low (name, value) => write name.lower value low) []

end Environment

/-- The text with each occurrence of `old`, from left to right, replaced; `old` is not empty. -/
def replaceAll (old new : Text) : (fuel : Nat) → Text → Text
  | 0, t => t
  | _, [] => []
  | fuel + 1, c :: t =>
    match Text.dropStart? old (c :: t) with
    | some rest => new ++ replaceAll old new fuel rest
    | none => c :: replaceAll old new fuel t

def reference (name : Text) : Text := .char '$' :: .char '\x7b' :: name ++ [.char '\x7d']

/-- The text with one variable's references replaced by its value. -/
def expandOne (t : Text) (name value : Text) : Text :=
  replaceAll (reference name) value t.length t

/-- The text with references replaced, variable by variable in the order of the environment. -/
def expand (env : Environment) (t : Text) : Text :=
  env.foldl (fun t (name, value) => expandOne t name value) t

end ControlPlaneMetrics.Settings
