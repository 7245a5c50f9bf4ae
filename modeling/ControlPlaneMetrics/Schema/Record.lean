import ControlPlaneMetrics.Schema.Coercion

/-!
Reading the members of an object. A field may have two names: the one used on the
wire, and the field's own name, which is looked at only if the first is absent.
Members that no field names are ignored.
-/
namespace ControlPlaneMetrics.Schema

structure Field where
  wire : Text
  own : Text

namespace Field

/-- A field whose two names are one. -/
def plain (name : String) : Field := ⟨Text.ofString name, Text.ofString name⟩

def named (wire own : String) : Field := ⟨Text.ofString wire, Text.ofString own⟩

/-- The name under which the field is present, and its value. -/
def find? (field : Field) (members : List (Text × Value)) : Option (Text × Value) :=
  match lookup? field.wire members with
  | some v => some (field.wire, v)
  | none => (lookup? field.own members).map (field.own, ·)

/-- The field's checked value, or `absent` if it is not there. -/
def read (field : Field) (absent : Checked α) (check : Value → Checked α)
    (members : List (Text × Value)) : Checked α :=
  match field.find? members with
  | some (name, v) => (check v).under name
  | none => absent

def required (field : Field) (check : Value → Checked α) (members : List (Text × Value)) :
    Checked α :=
  field.read (.error [⟨[field.wire], .missing⟩]) check members

def withDefault (field : Field) (default : α) (check : Value → Checked α)
    (members : List (Text × Value)) : Checked α :=
  field.read (.ok default) check members

end Field

/-- A scalar coercion as a check. -/
def scalar (coerce : Scalar → Except Flaw α) (v : Value) : Checked α :=
  match coerce v.scalar with
  | .ok a => .ok a
  | .error flaw => .flawed flaw

/-- Null, or a value that passes the check. -/
def nullable (check : Value → Checked α) : Value → Checked (Option α)
  | .null => .ok none
  | v => (check v).map some

/-- The members of an object, checked as the named record. -/
def record (name : Text) (check : List (Text × Value) → Checked α) : Value → Checked α
  | .object members => check members
  | _ => .flawed (.notRecord name)

end ControlPlaneMetrics.Schema
