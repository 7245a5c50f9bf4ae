import ControlPlaneMetrics.Failure

/-!
The store that reconciliations write: for each combination of labels the last state
written, in the order in which the combinations first came. A key may also be a plain
row of values instead of a typed pair. It is equal to the pair with the same parts, and
the form that came first is the one that is kept.
-/
namespace ControlPlaneMetrics.Metrics

inductive Key where
  | typed (clusterId instanceType : Value)
  | plain (parts : List Value)

namespace Key

def parts : Key → List Value
  | typed clusterId instanceType => [clusterId, instanceType]
  | plain parts => parts

/-- Keys are equal if their parts are, whatever their form. -/
def same (a b : Key) : Bool := Value.sameItems a.parts b.parts

/-- The first part that cannot be part of a key. -/
def misuse? (key : Key) : Option Misuse :=
  (key.parts.find? fun v => !v.isKey).map fun v => .notKey v.kindName

end Key

/-- A key and the state last written to it; any true value stands for enabled. -/
structure Entry where
  key : Key
  enabled : Value

abbrev Store := List Entry

namespace Store

/-- The store after a write: the entry of an equal key changes in place, a new one is last. -/
def put (key : Key) (enabled : Value) : Store → Store
  | [] => [⟨key, enabled⟩]
  | e :: rest =>
    if e.key.same key then { e with enabled := enabled } :: rest else e :: put key enabled rest

/-- As `put`, if every part of the key can be one. -/
def set (key : Key) (enabled : Value) (s : Store) : Except Misuse Store :=
  match key.misuse? with
  | some misuse => .error misuse
  | none => .ok (put key enabled s)

end Store

end ControlPlaneMetrics.Metrics
