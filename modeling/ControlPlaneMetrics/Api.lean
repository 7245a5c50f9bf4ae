import ControlPlaneMetrics.Failure

/-!
The cluster's API as it is seen from outside: machine sets by namespace and name, the
answers to listings, and the cluster version. Each answer is a value or the failure
that the request ends with.
-/
namespace ControlPlaneMetrics

/-- A request to the API with its arguments. -/
inductive Call where
  | get (ns name timeout : Value)
  | list (ns timeout : Value)
  | clusterVersion (timeout : Value)
  | watch (ns version timeout : Value)

abbrev Answer := Except Failure Value

structure Api where
  /-- The answer for each namespace and name, in the order in which they were first put. -/
  objects : List ((Text × Text) × Answer)
  /-- Answers to the next listings; after them, listings show the objects. -/
  listings : List Answer
  /-- The answer for the cluster version, if there is one. -/
  cluster : Option Answer

namespace Api

def empty : Api := ⟨[], [], none⟩

def notFound : Failure := .api (.int 404) (.text (Text.ofString "Not Found"))

/-- The group whose resources are read. -/
def machineGroup : Text := Text.ofString "machine.openshift.io"
def machineSets : Text := Text.ofString "controlplanemachinesets"
def configGroup : Text := Text.ofString "config.openshift.io"
def clusterVersions : Text := Text.ofString "clusterversions"
def clusterVersionName : Text := Text.ofString "version"
def version : Text := Text.ofString "v1"

def put (api : Api) (ns name : Text) (answer : Answer) : Api :=
  { api with objects := write (ns, name) answer api.objects }

def delete (api : Api) (ns name : Text) : Api :=
  { api with objects := erase (ns, name) api.objects }

def has (api : Api) (ns name : Text) : Bool := (lookup? (ns, name) api.objects).isSome

/-- The answer to a request for one object. -/
def get (api : Api) (ns name : Value) : Answer :=
  match [ns, name].find? fun v => !v.isKey with
  | some v => .error (.misuse (.notKey v.kindName))
  | none =>
    match ns, name with
    | .text n, .text m => (lookup? (n, m) api.objects).getD (.error notFound)
    | _, _ => .error notFound

/-- The objects of a namespace. -/
def objectsIn (api : Api) (ns : Value) : List Value :=
  api.objects.filterMap fun ((n, _), answer) =>
    if ns.same (.text n) then answer.toOption else none

/-- A listing of the objects of a namespace. -/
def listing (api : Api) (ns : Value) : Value :=
  .object [(Text.ofString "items", .list (api.objectsIn ns)),
    (Text.ofString "metadata", .object
      [(Text.ofString "resourceVersion", .text (Text.ofString "100"))])]

/-- The answer to a request for a listing, and the API after it. -/
def list (api : Api) (ns : Value) : Answer × Api :=
  match api.listings with
  | answer :: rest => (answer, { api with listings := rest })
  | [] => (.ok (api.listing ns), api)

/-- The answer to a request for the cluster version. -/
def clusterVersion (api : Api) : Answer := api.cluster.getD (.error notFound)

end Api

end ControlPlaneMetrics
