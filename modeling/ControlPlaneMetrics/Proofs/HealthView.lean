import ControlPlaneMetrics.Proofs.Moments
import ControlPlaneMetrics.Proofs.Reordering

/-!
What the health endpoints tell of a session. An exporter is ready as long as its thread lives, and
it tracks as many series as its store has received different keys. A request leaves the session as
it is, so that no other answer depends on it.
-/
namespace ControlPlaneMetrics

open Metrics

/-! ## The keys of a store -/

namespace Metrics

/-- The keys that are written, each where it comes first. -/
def distinctKeys (writes : List Write) : List Key :=
  (writes.map (·.1)).eraseDupsBy fun key first => first.same key

namespace Store

/-- The writes add the keys that are not there yet, each where it comes first. -/
theorem keys_putAll (writes : List Write) (s : Store) :
    (putAll writes s).map (·.key) = s.map (·.key) ++
      ((writes.map (·.1)).filter fun key => !holds key s).eraseDupsBy
        fun key first => first.same key := by
  induction writes generalizing s with
  | nil => simp
  | cons w rest ih =>
    have later := ih (put w.1 w.2 s)
    have keys := keys_put w.1 w.2 s
    rw [putAll, List.foldl_cons, ← putAll, later, List.map_cons]
    cases held : holds w.1 s with
    | true =>
      have same : ∀ key, holds key (put w.1 w.2 s) = holds key s := fun key => by
        rw [holds_keys, holds_keys, keys, held, if_pos rfl]
      rw [keys, held, if_pos rfl, List.filter_cons_of_neg (by simp [held])]
      simp [same]
    | false =>
      have more : ∀ key, holds key (put w.1 w.2 s) = (holds key s || w.1.same key) := fun key => by
        rw [holds_keys, holds_keys, keys, held, if_neg Bool.false_ne_true, List.any_append]
        simp
      rw [keys, held, if_neg Bool.false_ne_true, List.filter_cons_of_pos (by simp [held]),
        List.eraseDupsBy_cons, List.filter_filter, List.append_assoc, List.singleton_append]
      congr 3
      refine List.filter_congr fun key _ => ?_
      rw [more]
      cases holds key s <;> simp

/-- An empty store gets one entry for each key. -/
theorem length_putAll (writes : List Write) :
    (putAll writes []).length = (distinctKeys writes).length := by
  have keys := congrArg List.length (keys_putAll writes [])
  simpa [distinctKeys, holds] using keys

end Store

end Metrics

/-! ## What can be reported -/

namespace Health

mutual

/-- The value can be sent as it is: its numbers are finite, and its texts are Unicode. -/
def isReportable : Value → Bool
  | .null => true
  | .bool _ => true
  | .int _ => true
  | .float x => !x.isNan && !x.isInfinite
  | .text t => !t.hasSurrogate
  | .bytes _ => false
  | .list items => areReportable items
  | .object members => membersReportable members

def areReportable : List Value → Bool
  | [] => true
  | v :: rest => isReportable v && areReportable rest

def membersReportable : List (Text × Value) → Bool
  | [] => true
  | (name, v) :: rest => !name.hasSurrogate && isReportable v && membersReportable rest

end

mutual

theorem sendable_of_isReportable : (v : Value) → isReportable v = true → sendable v = v
  | .float x => fun finite => by
    simp only [isReportable, Bool.and_eq_true, Bool.not_eq_true'] at finite
    simp [sendable, finite]
  | .list items => fun plain => by
    unfold isReportable at plain
    unfold sendable
    rw [sendableItems_of_areReportable items plain]
  | .object members => fun plain => by
    unfold isReportable at plain
    unfold sendable
    rw [sendableMembers_of_membersReportable members plain]
  | .null | .bool _ | .int _ | .text _ | .bytes _ => fun _ => by
    unfold sendable
    rfl

theorem sendableItems_of_areReportable : (items : List Value) → areReportable items = true →
    sendableItems items = items
  | [] => fun _ => by
    unfold sendableItems
    rfl
  | v :: rest => fun plain => by
    unfold areReportable at plain
    obtain ⟨first, later⟩ := Bool.and_eq_true_iff.mp plain
    unfold sendableItems
    rw [sendable_of_isReportable v first, sendableItems_of_areReportable rest later]

theorem sendableMembers_of_membersReportable : (members : List (Text × Value)) →
    membersReportable members = true → sendableMembers members = members
  | [] => fun _ => by
    unfold sendableMembers
    rfl
  | (name, v) :: rest => fun plain => by
    unfold membersReportable at plain
    obtain ⟨first, later⟩ := Bool.and_eq_true_iff.mp plain
    obtain ⟨-, own⟩ := Bool.and_eq_true_iff.mp first
    unfold sendableMembers
    rw [sendable_of_isReportable v own, sendableMembers_of_membersReportable rest later]

end

mutual

theorem unpaired?_of_isReportable : (v : Value) → isReportable v = true → unpaired? v = none
  | .text t => fun plain => by
    unfold unpaired?
    rw [UnpairedFault.find?_eq_none_iff]
    simpa [isReportable] using plain
  | .list items => fun plain => by
    unfold isReportable at plain
    unfold unpaired?
    exact unpairedItem?_of_areReportable items plain
  | .object members => fun plain => by
    unfold isReportable at plain
    unfold unpaired?
    exact unpairedMember?_of_membersReportable members plain
  | .null | .bool _ | .int _ | .float _ | .bytes _ => fun _ => by
    unfold unpaired?
    rfl

theorem unpairedItem?_of_areReportable : (items : List Value) → areReportable items = true →
    unpairedItem? items = none
  | [] => fun _ => by
    unfold unpairedItem?
    rfl
  | v :: rest => fun plain => by
    unfold areReportable at plain
    obtain ⟨first, later⟩ := Bool.and_eq_true_iff.mp plain
    unfold unpairedItem?
    rw [unpaired?_of_isReportable v first, unpairedItem?_of_areReportable rest later]
    rfl

theorem unpairedMember?_of_membersReportable : (members : List (Text × Value)) →
    membersReportable members = true → unpairedMember? members = none
  | [] => fun _ => by
    unfold unpairedMember?
    rfl
  | (name, v) :: rest => fun plain => by
    unfold membersReportable at plain
    obtain ⟨first, later⟩ := Bool.and_eq_true_iff.mp plain
    obtain ⟨named, own⟩ := Bool.and_eq_true_iff.mp first
    unfold unpairedMember?
    rw [(UnpairedFault.find?_eq_none_iff name).mpr (by simpa using named),
      unpaired?_of_isReportable v own, unpairedMember?_of_membersReportable rest later]
    rfl

end

/-- What readiness is answered with. -/
def readiness (running : Bool) (now : Text) : Response :=
  respond (if running then 200 else 503)
    (.object [(Text.ofString "status",
        .text (Text.ofString (if running then "ready" else "not ready"))),
      (Text.ofString "timestamp", .text now)])

/-- The status of an exporter of which everything can be reported. -/
def report (clusterId : Text) (interval : Binary64) (running : Bool) (tracked : Nat) (now : Text)
    (config : Value) : Response :=
  respond 200 (.object [(Text.ofString "cluster_id", .text clusterId),
    (Text.ofString "aggregation_interval", .float interval),
    (Text.ofString "aggregator_running", .bool running),
    (Text.ofString "tracked_series", .int tracked),
    (Text.ofString "timestamp", .text now),
    (Text.ofString "config", config)])

end Health

/-- The double that is nearest to a number. -/
def Value.double? : Value → Option Binary64
  | .float x => some x
  | v => v.integer?.map Binary64.ofInt

/-- The cluster's identifier is a Unicode text, the interval is represented by a finite double, and
the configuration is null or an object that can be sent as it is. -/
structure Setting.Reportable (setting : Setting) (clusterId : Text) (interval : Binary64) :
    Prop where
  named : setting.target.clusterId = .text clusterId
  unicode : clusterId.hasSurrogate = false
  timed : setting.interval.double? = some interval
  finite : interval.isNan = false ∧ interval.isInfinite = false
  configured : setting.config = .null ∨ ∃ members, setting.config = .object members
  plain : Health.isReportable setting.config = true

namespace Schema

theorem scalar_number {v : Value} {x : Binary64} (double : v.double? = some x)
    (finite : x.isInfinite = false) : scalar Coercion.number v = .ok x := by
  cases v with
  | bool b =>
    cases double
    rfl
  | int n =>
    cases double
    simp [scalar, Value.scalar, Coercion.number, Coercion.spelling, finite]
  | float y =>
    cases double
    rfl
  | _ => cases double

end Schema

namespace Health

theorem endpoint_readyz (view : View) (now : Text) :
    Endpoint.answer view now .readyz = readiness view.running now := rfl

/-- If everything can be reported, the status is, and nothing in it is changed. -/
theorem endpoint_status {view : View} {setting : Setting} {clusterId : Text} {interval : Binary64}
    (reportable : setting.Reportable clusterId interval)
    (own : view.clusterId = setting.target.clusterId ∧ view.interval = setting.interval ∧
      view.config = setting.config) (now : Text) :
    Endpoint.answer view now .status =
      report clusterId interval view.running view.tracked now setting.config := by
  obtain ⟨named, timed, configured⟩ := own
  have read : Schema.scalar Schema.Coercion.text view.clusterId = .ok clusterId := by
    rw [named, reportable.named]
    rfl
  have double : Schema.scalar Schema.Coercion.number view.interval = .ok interval := by
    rw [timed]
    exact Schema.scalar_number reportable.timed reportable.finite.2
  have object : config view.config = .ok setting.config := by
    rw [configured]
    rcases reportable.configured with null | ⟨members, shape⟩
    · rw [null]
      rfl
    · rw [shape]
      rfl
  have sent := sendable_of_isReportable setting.config reportable.plain
  have stated : Health.status view now = .ok (.object [
      (Text.ofString "cluster_id", .text clusterId),
      (Text.ofString "aggregation_interval", .float interval),
      (Text.ofString "aggregator_running", .bool view.running),
      (Text.ofString "tracked_series", .int view.tracked),
      (Text.ofString "timestamp", .text now),
      (Text.ofString "config", setting.config)]) := by
    unfold Health.status
    rw [read, double, object]
    rfl
  have whole : unpaired? (.list [view.clusterId, view.config]) = none := by
    refine unpaired?_of_isReportable _ ?_
    rw [named, configured, reportable.named]
    simp [isReportable, areReportable, reportable.unicode, reportable.plain]
  obtain ⟨number, bounded⟩ := reportable.finite
  simp [Endpoint.answer, stated, reply, whole, report, respond, sendable, sendableMembers, number, bounded,
    sent]

theorem handle_get {view : View} {method reference now : Text} {endpoint : Endpoint}
    (reading : method.upper = Text.ofString "GET")
    (found : Endpoint.ofPath? (pathOf reference) = some endpoint) :
    handle view method reference now = endpoint.answer view now := by
  simp [handle, Endpoint.admits, reading, found]

end Health

/-! ## Requests do not show -/

/-- The step asks the health endpoints. -/
def Step.isRequest : Step → Bool
  | .request .. => true
  | _ => false

mutual

/-- The step without the requests that are made while it takes its course. -/
def Step.quiet : Step → Step
  | .loop ticks => .loop (quietTicks ticks)
  | step => step

/-- The steps without the requests among them. -/
def quietSteps : List Step → List Step
  | [] => []
  | first :: rest => if first.isRequest then quietSteps rest else first.quiet :: quietSteps rest

def quietTicks : List (List Step) → List (List Step)
  | [] => []
  | steps :: rest => quietSteps steps :: quietTicks rest

end

namespace Session

theorem step_of_isRequest (s : Session) {step : Step} (asks : step.isRequest = true) :
    (s.step step).2 = s := by
  cases step with
  | request => rfl
  | _ => cases asks

mutual

theorem step_quiet (s : Session) : (st : Step) → s.step st.quiet = s.step st
  | .loop ticks => by
    unfold Step.quiet step
    rw [runTicks_quiet]
  | .renew _ | .set _ _ | .stop | .aggregate | .put _ _ _ | .delete _ _ | .scriptListing _
  | .scriptCluster _ | .discover _ | .reconcile _ _ | .newStore | .store | .samples | .sample _ _
  | .exposition | .hold | .held | .writeHeld | .run | .isRunning | .sync | .event _
  | .setVersion _ | .stopController | .watchOnce _ _ | .runController _ _ | .request _ _ _ => by
    unfold Step.quiet
    rfl

theorem runSteps_quiet (s : Session) :
    (steps : List Step) → s.runSteps (quietSteps steps) = s.runSteps steps
  | [] => by
    unfold quietSteps
    rfl
  | first :: rest => by
    unfold quietSteps
    split
    · next asks => rw [runSteps_quiet s rest, runSteps, s.step_of_isRequest asks]
    · rw [runSteps, runSteps, step_quiet s first, runSteps_quiet _ rest]

theorem runTicks_quiet (interval : Value) (s : Session) : (ticks : List (List Step)) →
    runTicks interval s (quietTicks ticks) = runTicks interval s ticks
  | [] => by
    unfold quietTicks
    rfl
  | steps :: rest => by
    have later := runTicks_quiet interval
      ((s.runSteps steps).withExporter (s.runSteps steps).exporter.tick) rest
    unfold quietTicks runTicks
    dsimp only
    rw [runSteps_quiet s steps, later]

end

/-! ## What the endpoints tell -/

/-- What is answered about readiness and status after the moments, where everything in the setting
can be reported. -/
structure Tells (s : Session) (past : List Moment) (running : Bool) : Prop where
  alive : running = true ↔ ThreadAlive (presentMoments past)
  readyz : ∀ method reference now, method.upper = Text.ofString "GET" →
    Health.pathOf reference = Text.ofString "/readyz" →
    s.step (.request method reference now) = (.ok (.response (Health.readiness running now)), s)
  status : ∀ method reference now, method.upper = Text.ofString "GET" →
    Health.pathOf reference = Text.ofString "/status" →
    ∀ clusterId interval, s.setting.Reportable clusterId interval →
      s.step (.request method reference now) = (.ok (.response (Health.report clusterId interval
        running (distinctKeys (presentWrites past)).length now s.setting.config)), s)

theorem Passes.tells {s₀ s : Session} {past : List Moment} (passes : Passes s₀ past s)
    (idle : s₀.flushing = .never) (empty : s₀.exporter.metrics.store = []) :
    s.Tells past s.view.running where
  alive := by
    have before : s₀.flushing = .running ↔ ThreadAlive [] :=
      iff_of_false (by simp [idle]) not_threadAlive_nil
    have running : s.flushing = .running ↔ ThreadAlive (presentMoments past) :=
      passes.running_iff before
    simpa [view] using running
  readyz method reference now reading asked := by
    have found : Health.Endpoint.ofPath? (Health.pathOf reference) = some .readyz := by
      rw [asked]
      decide
    rw [Session.step, Health.handle_get reading found, Health.endpoint_readyz]
  status method reference now reading asked clusterId interval reportable := by
    have found : Health.Endpoint.ofPath? (Health.pathOf reference) = some .status := by
      rw [asked]
      decide
    have stored : s.exporter.metrics.store = Store.putAll (presentWrites past) [] :=
      passes.store empty
    have tracked : s.view.tracked = (distinctKeys (presentWrites past)).length := by
      rw [← Store.length_putAll, ← stored]
      rfl
    rw [Session.step, Health.handle_get reading found,
      Health.endpoint_status reportable ⟨rfl, rfl, rfl⟩, tracked]

/-- In every session that is reached, also while a loop waits or a stream is followed: readiness
tells whether the thread that the present exporter started last lives, and the status tells the same
of it, what that exporter was made for, and how many keys the present store has received. Whether
and when requests are made, every step is answered alike. -/
theorem health_view_is_faithful {setting : Setting} {api : Api} {s₀ : Session}
    (created : create setting api = .ok s₀) :
    (∀ steps, ∃ running, (s₀.runSteps steps).Tells (s₀.moments steps) running) ∧
    (∀ steps before m after, s₀.moments steps = before ++ m :: after →
      ∃ running, m.session.Tells before running) ∧
    ∀ before others, quietSteps before = quietSteps others →
      ∀ step other, step.quiet = other.quiet →
        (s₀.runSteps before).step step = (s₀.runSteps others).step other := by
  obtain ⟨idle, empty⟩ : s₀.flushing = .never ∧ s₀.exporter.metrics.store = [] := by
    unfold create at created
    split at created
    · cases created
    · cases created
      exact ⟨rfl, rfl⟩
  refine ⟨fun steps => ?_, fun steps before m after split => ?_,
    fun before others same step other alike => ?_⟩
  · exact ⟨_, (s₀.passes_runSteps steps).tells idle empty⟩
  · have passes := s₀.passes_runSteps steps
    rw [split] at passes
    exact ⟨_, passes.before.tells idle empty⟩
  · rw [← runSteps_quiet s₀ before, same, runSteps_quiet, ← step_quiet _ step, alike, step_quiet]

/-- A thread is started, and two keys are written, one of them in two forms. -/
def busy : List Step :=
  let size (t : String) : Value := .text (Text.ofString t)
  [.run, .set (.typed Target.east.clusterId (size "m5.xlarge")) (.bool true),
    .loop [[.set (.plain [Target.east.clusterId, size "m5.xlarge"]) (.bool false)],
      [.set (.typed Target.east.clusterId (size "m5.2xlarge")) (.bool true)]]]

/-- The same, and requests come in all the while. -/
def probed (now : Text) : List Step :=
  let size (t : String) : Value := .text (Text.ofString t)
  let ask (path : String) : Step := .request (Text.ofString "GET") (Text.ofString path) now
  [ask "/readyz", .run, .set (.typed Target.east.clusterId (size "m5.xlarge")) (.bool true),
    .loop [[ask "/status", .set (.plain [Target.east.clusterId, size "m5.xlarge"]) (.bool false)],
      [.set (.typed Target.east.clusterId (size "m5.2xlarge")) (.bool true), ask "/none"]], ask "/"]

theorem busy_session_is_ready_with_two_keys :
    let now := Text.ofString "now"
    let get (path : String) : Step := .request (Text.ofString "GET") (Text.ofString path) now
    create east.setting Api.empty = .ok east ∧
    (Text.ofString "GET").upper = Text.ofString "GET" ∧
    Health.pathOf (Text.ofString "/readyz") = Text.ofString "/readyz" ∧
    Health.pathOf (Text.ofString "/status") = Text.ofString "/status" ∧
    (east.runSteps busy).setting.Reportable (Text.ofString "east") (Binary64.ofInt 60) ∧
    ThreadAlive (presentMoments (east.moments busy)) ∧
    (east.runSteps busy).step (get "/readyz") =
      (.ok (.response (Health.readiness true now)), east.runSteps busy) ∧
    (east.runSteps busy).step (get "/status") = (.ok (.response (Health.report
      (Text.ofString "east") (Binary64.ofInt 60) true 2 now .null)), east.runSteps busy) ∧
    quietSteps busy = quietSteps (probed now) ∧
    (east.runSteps busy).step .store = (east.runSteps (probed now)).step .store := by
  intro now get
  have created : create east.setting Api.empty = .ok east := rfl
  have reading : (Text.ofString "GET").upper = Text.ofString "GET" := by decide
  have ready : Health.pathOf (Text.ofString "/readyz") = Text.ofString "/readyz" := by decide
  have state : Health.pathOf (Text.ofString "/status") = Text.ofString "/status" := by decide
  have reportable :
      (east.runSteps busy).setting.Reportable (Text.ofString "east") (Binary64.ofInt 60) :=
    ⟨rfl, by decide, rfl, by decide, .inl rfl, rfl⟩
  have alive : ThreadAlive (presentMoments (east.moments busy)) := by
    have kept : (east.moments busy).tail.all (fun m => !m.stops) = true := rfl
    exact ⟨[], ⟨east, .run⟩, (east.moments busy).tail, rfl, rfl, by simpa using kept⟩
  have same : quietSteps busy = quietSteps (probed now) := rfl
  obtain ⟨tells, -, apart⟩ := health_view_is_faithful created
  obtain ⟨running, told⟩ := tells busy
  obtain rfl : running = true := told.alive.mpr alive
  have tracked : (distinctKeys (presentWrites (east.moments busy))).length = 2 := rfl
  have status := told.status _ _ now reading state _ _ reportable
  rw [tracked] at status
  exact ⟨created, reading, ready, state, reportable, alive,
    told.readyz _ _ now reading ready, status, same, apart busy (probed now) same .store .store rfl⟩

end Session

end ControlPlaneMetrics
