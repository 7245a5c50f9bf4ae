import ControlPlaneMetrics.Exporter
import ControlPlaneMetrics.Schema.Record

/-!
The health endpoints: liveness, readiness and status, and pages about them that the web
framework makes. They read the state of the exporter and never change it.
-/
namespace ControlPlaneMetrics.Health

/-- What the endpoints see. -/
structure View where
  running : Bool
  clusterId : Value
  interval : Value
  tracked : Nat
  config : Value

inductive Body where
  | json (v : Value)
  | text (t : Text)
  /-- What the web framework writes about the endpoints. -/
  | page

inductive Fault where
  | invalid (report : Schema.Report)
  | unpaired (fault : UnpairedFault)

structure Response where
  status : Nat
  body : Body
  fault : Option Fault

def respond (status : Nat) (v : Value) : Response := ⟨status, .json v, none⟩

/-- An answer that says only what is wrong. -/
def refuse (status : Nat) (detail : String) : Response :=
  respond status (.object [(Text.ofString "detail", .text (Text.ofString detail))])

mutual

/-- The value as it can be sent: JSON has no number for nan and the infinities. -/
def sendable : Value → Value
  | .float x => if x.isNan ∨ x.isInfinite then .null else .float x
  | .list items => .list (sendableItems items)
  | .object members => .object (sendableMembers members)
  | v => v

def sendableItems : List Value → List Value
  | [] => []
  | v :: rest => sendable v :: sendableItems rest

def sendableMembers : List (Text × Value) → List (Text × Value)
  | [] => []
  | (name, v) :: rest => (name, sendable v) :: sendableMembers rest

end

mutual

/-- What keeps the first text that cannot be sent from being so, if there is one. -/
def unpaired? : Value → Option UnpairedFault
  | .text t => UnpairedFault.find? t
  | .list items => unpairedItem? items
  | .object members => unpairedMember? members
  | _ => none

def unpairedItem? : List Value → Option UnpairedFault
  | [] => none
  | v :: rest => (unpaired? v).or (unpairedItem? rest)

def unpairedMember? : List (Text × Value) → Option UnpairedFault
  | [] => none
  | (name, v) :: rest =>
    (UnpairedFault.find? name).or ((unpaired? v).or (unpairedMember? rest))

end

/-- A configuration is an object if there is one. -/
def config (v : Value) : Schema.Checked Value :=
  match v with
  | .null => .ok .null
  | .object members => .ok (.object members)
  | _ => .flawed .notObject

/-- The status as it is reported: each part must be of its kind. -/
def status (view : View) (now : Text) : Schema.Checked Value :=
  let clusterId := Schema.scalar Schema.Coercion.text view.clusterId
  let interval := Schema.scalar Schema.Coercion.number view.interval
  (Schema.Checked.both (Schema.Checked.under (Text.ofString "cluster_id") clusterId) <|
    Schema.Checked.both (Schema.Checked.under (Text.ofString "aggregation_interval") interval)
      (Schema.Checked.under (Text.ofString "config") (config view.config))).map
    fun (clusterId, interval, config) =>
    .object [(Text.ofString "cluster_id", .text clusterId),
      (Text.ofString "aggregation_interval", .float interval),
      (Text.ofString "aggregator_running", .bool view.running),
      (Text.ofString "tracked_series", .int view.tracked),
      (Text.ofString "timestamp", .text now),
      (Text.ofString "config", config)]

inductive Endpoint where
  | healthz
  | readyz
  | status
  | page
  deriving DecidableEq

/-- Where the web framework puts its pages. -/
def pages : List Text :=
  ["/openapi.json", "/docs", "/docs/oauth2-redirect", "/redoc"].map Text.ofString

def Endpoint.ofPath? (path : Text) : Option Endpoint :=
  if path = Text.ofString "/healthz" then some .healthz
  else if path = Text.ofString "/readyz" then some .readyz
  else if path = Text.ofString "/status" then some .status
  else if pages.contains path then some .page
  else none

/-- Whether the endpoint answers such a request; of a page the head may be asked for alone. -/
def Endpoint.admits (method : Text) (endpoint : Endpoint) : Bool :=
  method.upper = Text.ofString "GET" ||
    (endpoint = .page && method.upper = Text.ofString "HEAD")

def fail (fault : Fault) : Response :=
  ⟨500, .text (Text.ofString "Internal Server Error"), some fault⟩

/-- An answer with a value into which others were put, unless one of these cannot be sent. -/
def reply (outside : List Value) (v : Value) : Response :=
  match unpaired? (.list outside) with
  | some fault => fail (.unpaired fault)
  | none => respond 200 (sendable v)

def Endpoint.answer (view : View) (now : Text) : Endpoint → Response
  | healthz =>
    respond 200 (.object [(Text.ofString "status", .text (Text.ofString "ok")),
      (Text.ofString "timestamp", .text now)])
  | readyz =>
    respond (if view.running then 200 else 503)
      (.object [(Text.ofString "status",
          .text (Text.ofString (if view.running then "ready" else "not ready"))),
        (Text.ofString "timestamp", .text now)])
  | status =>
    match Health.status view now with
    | .error problems => fail (.invalid ⟨Text.ofString "ExporterStatus", problems⟩)
    | .ok v => reply [view.clusterId, view.config] v
  | page => ⟨200, .page, none⟩

def withoutSlashes (path : Text) : Text :=
  let slash : CodePoint := '/'
  (path.reverse.dropWhile (· = slash)).reverse

/-- The path that a reference asks for: what stands before a query or a fragment, from the root.
After two slashes at the beginning comes a host, which is left out. -/
def pathOf (reference : Text) : Text :=
  let slash : CodePoint := '/'
  let t := reference.takeWhile fun c => c ≠ .char '?' && c ≠ .char '#'
  let t := match t with
    | .char '/' :: .char '/' :: rest => rest.dropWhile (· ≠ slash)
    | t => t
  slash :: t.dropWhile (· = slash)

/-- The answer to a request: only reading is allowed, and a path that lies one or more slashes
behind an endpoint's is redirected. -/
def handle (view : View) (method reference now : Text) : Response :=
  let path := pathOf reference
  match Endpoint.ofPath? path with
  | some endpoint =>
    if endpoint.admits method then endpoint.answer view now
    else refuse 405 "Method Not Allowed"
  | none =>
    if (Endpoint.ofPath? (withoutSlashes path)).isSome then ⟨307, .text [], none⟩
    else refuse 404 "Not Found"

end ControlPlaneMetrics.Health
