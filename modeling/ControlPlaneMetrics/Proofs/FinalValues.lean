import ControlPlaneMetrics.Health
import ControlPlaneMetrics.Proofs.Intervals
import ControlPlaneMetrics.Proofs.LateStop
import ControlPlaneMetrics.Proofs.Shutdown

/-!
The values that a service ends up with, from flags, from loaded settings and from the cluster itself,
and everything that uses them: requests to the API, keys of the store, the port at which metrics are
served, and the status. They are settled before the run, and no turn of any thread changes them.
-/
namespace ControlPlaneMetrics

/-- A request of a run for the target: none is for the cluster version. -/
def Call.Addresses (target : Target) : Call → Prop
  | .get ns _ timeout => ns = target.ns ∧ timeout = target.requestTimeout
  | .list ns timeout => ns = target.ns ∧ timeout = target.requestTimeout
  | .watch ns _ timeout => ns = target.ns ∧ timeout = target.watchTimeout
  | .clusterVersion _ => False

/-- The key of an instance type of the target. -/
def Target.typed (target : Target) (size : Text) : Metrics.Key :=
  .typed target.clusterId (.text size)

/-! ## The exporter of a run -/

namespace Exporter

/-- The exporter when calls have been made that change nothing. -/
def called (calls : List Call) (e : Exporter) : Exporter := { e with calls := e.calls ++ calls }

theorem called_unsaid (calls : List Call) (e : Exporter) :
    (e.called calls).unsaid = e.unsaid.called calls := rfl

/-- Since the calls before, only the target was asked for, and nothing is stored but under its
identifier. -/
structure Serves (target : Target) (before : List Call) (e : Exporter) : Prop where
  calls : ∃ later, e.calls = before ++ later ∧ ∀ c ∈ later, c.Addresses target
  keys : Metrics.Store.Keyed target.typed e.metrics.store

namespace Serves

variable {target : Target} {before : List Call} {e : Exporter}

theorem of_same {next : Exporter} (serves : e.Serves target before) (calls : next.calls = e.calls)
    (metrics : next.metrics = e.metrics) : next.Serves target before :=
  ⟨calls ▸ serves.calls, metrics ▸ serves.keys⟩

theorem of_unsaid {next : Exporter} (serves : e.Serves target before)
    (unsaid : next.unsaid = e.unsaid) : next.Serves target before := by
  have calls : next.unsaid.calls = e.unsaid.calls := congrArg _ unsaid
  have metrics : next.unsaid.metrics = e.unsaid.metrics := congrArg _ unsaid
  exact serves.of_same calls metrics

theorem call (serves : e.Serves target before) {c : Call} (addressed : c.Addresses target) :
    (e.call c).Serves target before := by
  obtain ⟨later, calls, all⟩ := serves.calls
  refine ⟨⟨later ++ [c], ?_, ?_⟩, serves.keys⟩
  · rw [Exporter.call, calls, List.append_assoc]
  · intro d member
    rcases List.mem_append.mp member with old | last
    · exact all d old
    · exact List.mem_singleton.mp last ▸ addressed

theorem asked (serves : e.Serves target before) (names : List Value) (lines : List Log.Line) :
    (e.asked target (names.map target.request) lines).Serves target before := by
  obtain ⟨later, calls, all⟩ := serves.calls
  refine ⟨⟨later ++ names.map target.request, ?_, ?_⟩, ?_⟩
  · rw [Exporter.asked, calls, List.append_assoc]
  · intro c member
    rcases List.mem_append.mp member with old | new
    · exact all c old
    · obtain ⟨name, -, rfl⟩ := List.mem_map.mp new
      exact ⟨rfl, rfl⟩
  · exact serves.keys.putAll _ fun write settled => Target.settle?_key settled

theorem attempt (serves : e.Serves target before) (name : Value) :
    (e.attempt target name).2.Serves target before := by
  obtain ⟨lines, attempted⟩ := e.attempt_eq target name
  rw [attempted]
  exact serves.asked [name] lines

theorem handleEvent (serves : e.Serves target before) (event : Value) :
    (e.handleEvent target event).2.Serves target before := by
  obtain ⟨_, lines, _, handled, -⟩ := e.handleEvent_eq target event
  rw [handled, Event.requests]
  exact (serves.asked (Event.subject? event).toList lines).of_same rfl rfl

end Serves

end Exporter

namespace Watcher

variable {target : Target} {before : List Call} {w : Watcher}

theorem handle_serves (serves : w.exporter.Serves target before) (item : StreamItem) :
    (handle target item w).2.exporter.Serves target before := by
  cases item with
  | event v =>
    have later := serves.handleEvent v
    simp only [handle]
    rcases handled : w.exporter.handleEvent target v with ⟨failure | _ | _, e⟩ <;>
      rw [handled] at later
    · exact later
    · simpa using later
    · exact later
  | stopWatch => simpa [handle] using serves
  | put | delete => exact serves.of_same rfl rfl
  | raise | stopEvent => exact serves

end Watcher

namespace Controller

variable {target : Target} {ends : Bool} {before : List Call} {c : Controller}

theorem list_serves (serves : c.watcher.exporter.Serves target before) :
    (c.list target).watcher.exporter.Serves target before := by
  have asked := serves.call (c := .list target.ns target.requestTimeout) ⟨rfl, rfl⟩
  unfold list
  split
  · dsimp only
    split
    · exact asked.of_same rfl rfl
    · split <;> exact asked.of_same rfl rfl
  · exact serves

theorem syncNext_serves (serves : c.watcher.exporter.Serves target before) (listing : Value)
    (count : Nat) (left : List Value) :
    (c.syncNext target listing count left).watcher.exporter.Serves target before := by
  unfold syncNext
  split
  · split
    · exact serves
    · exact serves.of_same rfl rfl
  · split
    · exact serves
    · next name _ =>
      have later := serves.attempt name
      rcases attempted : c.watcher.exporter.attempt target name with ⟨failure | done, e⟩ <;>
        rw [attempted] at later <;> exact later

theorem openNext_serves (serves : c.watcher.exporter.Serves target before) :
    (c.openNext target ends).watcher.exporter.Serves target before := by
  have asked := serves.call
    (c := .watch target.ns c.watcher.exporter.version target.watchTimeout) ⟨rfl, rfl⟩
  unfold openNext
  dsimp only
  split <;> exact asked

theorem followNext_serves (serves : c.watcher.exporter.Serves target before) (left : Stream) :
    (c.followNext target left).watcher.exporter.Serves target before := by
  unfold followNext
  split
  · exact serves
  · next item rest =>
    have later := Watcher.handle_serves serves item
    rcases handled : c.watcher.handle target item with ⟨failure | goesOn, w⟩ <;>
      rw [handled] at later
    · dsimp only
      split
      · exact later.of_same rfl rfl
      · exact later
    · dsimp only
      split <;> exact later

theorem step_serves (serves : c.watcher.exporter.Serves target before) :
    (c.step target ends).watcher.exporter.Serves target before := by
  unfold step
  split
  case h_1 => exact serves.of_same rfl rfl
  case h_2 =>
    split
    · exact serves.of_same rfl rfl
    · exact serves
  case h_3 => exact list_serves serves
  case h_4 listing count left _ => exact syncNext_serves serves listing count left
  case h_5 => exact openNext_serves serves
  case h_6 left _ => exact followNext_serves serves left
  case h_7 => exact serves

end Controller

/-! ## The service -/

namespace Service

/-- The ports at which metrics are served. -/
def ports (s : Service) : List Int :=
  s.opened.filterMap fun
    | .metrics port => some port
    | _ => none

theorem serveMetrics_ports (failure? : Option Failure) (s : Service) :
    (s.serveMetrics failure?).2.ports = s.ports ++ [s.settings.exporter.metricsPort] := by
  cases failure? <;> simp [serveMetrics, ports, opening, info, say]

theorem startHealth_ports (s : Service) : s.startHealth.ports = s.ports := by
  unfold startHealth
  dsimp only
  split
  · simp [ports, opening, say]
  · rfl

/-- The service is one that was set up as `base`, and has used the values that were settled then. -/
structure Uses (target : Target) (base s : Service) : Prop where
  settings : s.settings = base.settings
  serves : s.exporter.Serves target base.exporter.calls
  ports : ∀ port ∈ s.ports, port = base.settings.exporter.metricsPort

namespace Uses

variable {target : Target} {base s : Service}

/-- What is said, and what is opened besides metrics, uses nothing else. -/
theorem of_said {next : Service} (uses : base.Uses target s) (settings : next.settings = s.settings)
    (unsaid : next.exporter.unsaid = s.exporter.unsaid) (ports : next.ports = s.ports) :
    base.Uses target next :=
  ⟨settings.trans uses.settings, uses.serves.of_unsaid unsaid, ports ▸ uses.ports⟩

theorem serveMetrics (uses : base.Uses target s) (failure? : Option Failure) :
    base.Uses target (s.serveMetrics failure?).2 := by
  refine ⟨?_, uses.serves.of_unsaid (onlySays_serveMetrics failure? s).2, ?_⟩
  · rw [serveMetrics_settings]
    exact uses.settings
  · rw [serveMetrics_ports]
    intro port member
    rcases List.mem_append.mp member with old | last
    · exact uses.ports port old
    · rw [List.mem_singleton.mp last, uses.settings]

theorem startHealth (uses : base.Uses target s) : base.Uses target s.startHealth := by
  refine uses.of_said ?_ (onlySays_startHealth s).2 s.startHealth_ports
  unfold Service.startHealth
  dsimp only
  split <;> rfl

end Uses

end Service

namespace Threads

/-- The service as the exporter of its controller shows it. -/
def present (t : Threads) : Service :=
  { t.service with exporter := t.controller.watcher.exporter }

section Uses

variable {target : Target} {w : Surroundings} {base : Service} {t : Threads}

theorem stop_uses (uses : base.Uses target t.present) (cause : Cause) (s : Stopping) :
    base.Uses target (t.stop cause s).present := by
  cases s with
  | setEvent => exact uses
  | stopWatch =>
    have same : (t.stop cause .stopWatch).present = t.present := by
      simp [stop, Controller.stopWatch, present]
    rwa [same]
  | stopFlushing =>
    unfold stop
    dsimp only
    split <;> exact uses

theorem perform_uses (uses : base.Uses target t.present) (deed : Deed) :
    base.Uses target (t.perform target w deed).present := by
  cases deed with
  | serve => exact uses.serveMetrics w.listening
  | startHealth => exact uses.startHealth
  | stop s => exact stop_uses uses .other s
  | startFlushing | say | signalled => exact uses.of_said rfl rfl rfl
  | keepFlushing | startController | await => exact uses

theorem controllerTurn_uses (uses : base.Uses target t.present) :
    base.Uses target (t.controllerTurn target w).present := by
  unfold controllerTurn
  split
  · have stepped : base.Uses target
        { t.service with exporter := (t.controller.step target (w.ending = .stop)).watcher.exporter } :=
      ⟨uses.settings, Controller.step_serves uses.serves, uses.ports⟩
    unfold controllerStep
    dsimp only
    split
    · unfold runEnded
      split
      · exact stepped
      · split <;> exact stepped
    · exact stepped
  · next deed rest _ =>
    cases deed with
    | report => exact uses.of_said rfl rfl rfl
    | noteFailure => exact ⟨uses.settings, uses.serves, uses.ports⟩
    | stop s => exact stop_uses (t := { t with thread := .failing rest }) uses .failure s
  · exact uses

/-- Whoever takes a turn uses the values that were settled before. -/
theorem advance_uses (uses : base.Uses target t.present) (turn : Turn) :
    base.Uses target (t.advance target w turn).present := by
  unfold advance
  split
  · exact uses
  · cases turn with
    | main =>
      dsimp only
      unfold mainTurn
      split
      · exact uses
      · split <;> exact uses
      · next deed rest _ _ => exact perform_uses (t := { t with main := rest }) uses deed
    | controller => exact controllerTurn_uses uses
    | signal => exact uses

theorem execute_uses (turns : List Turn) (uses : base.Uses target t.present) :
    base.Uses target (t.execute target w turns).present := by
  induction turns generalizing t with
  | nil => exact uses
  | cons turn rest ih => exact ih (advance_uses uses turn)

end Uses

end Threads

/-! ## Setting up -/

/-- The settings of the export under a command line. A number from a flag always counts, and a text
if it is not empty. -/
structure CommandLine.Arguments.Merged (a : CommandLine.Arguments) (loaded final : Settings.Export) :
    Prop where
  clusterId : final.clusterId = match a.clusterId with
    | some (c :: id) => some (c :: id)
    | _ => loaded.clusterId
  interval : final.interval = match a.interval with
    | some x => x
    | none => loaded.interval
  ns : final.ns = match a.ns with
    | some (c :: ns) => c :: ns
    | _ => loaded.ns
  metricsPort : final.metricsPort = match a.metricsPort with
    | some port => port
    | none => loaded.metricsPort

theorem CommandLine.Arguments.merged_onto (a : CommandLine.Arguments) (loaded : Settings) :
    a.Merged loaded.exporter (a.onto loaded).exporter := by
  refine ⟨?_, ?_, ?_, ?_⟩
  · rcases given : a.clusterId with - | ⟨- | ⟨c, id⟩⟩ <;> simp [onto, given, Option.filter]
  · cases given : a.interval <;> simp [onto, given]
  · rcases given : a.ns with - | ⟨- | ⟨c, ns⟩⟩ <;> simp [onto, given, Option.filter]
  · cases given : a.metricsPort <;> simp [onto, given]

/-- Where the cluster's identifier comes from, and the calls that it takes. -/
inductive Settings.Identifies (api : Api) (settings : Settings) : List Call → Value → Prop where
  | configured {id : Text} : settings.exporter.clusterId = some id → id ≠ [] →
      Settings.Identifies api settings [] (.text id)
  | discovered {version spec id : Value} : (∀ t, settings.exporter.clusterId = some t → t = []) →
      api.clusterVersion = .ok version → version.member? (Text.ofString "spec") = some spec →
      spec.member? (Text.ofString "clusterID") = some id → id.isTruthy = true →
      Settings.Identifies api settings [.clusterVersion (.int settings.kubernetes.requestTimeout)] id

theorem Value.member?_of_memberOrNull {v part : Value} {name : Text}
    (found : v.memberOrNull name = .ok part) (notNull : part ≠ .null) :
    v.member? name = some part := by
  cases v with
  | object members =>
    cases entry : lookup? name members with
    | none =>
      simp only [memberOrNull, entry, Option.getD_none, Except.ok.injEq] at found
      exact absurd found.symm notNull
    | some other =>
      simp only [memberOrNull, entry, Option.getD_some, Except.ok.injEq] at found
      exact entry.trans (congrArg some found)
  | _ => cases found

theorem clusterIdOf_eq_ok {version id : Value} (identified : clusterIdOf version = .ok id) :
    ∃ spec, version.member? (Text.ofString "spec") = some spec ∧
      spec.member? (Text.ofString "clusterID") = some id ∧ id.isTruthy = true := by
  obtain ⟨spec, found, identified⟩ := bind_eq_ok identified
  obtain ⟨named, read, identified⟩ := bind_eq_ok identified
  split at identified
  case isFalse => cases identified
  case isTrue truthy =>
    cases identified
    have present : id ≠ .null := by
      rintro rfl
      cases truthy
    have member := Value.member?_of_memberOrNull (mapError_eq_ok read) present
    -- what is empty stands for no members, and has no identifier
    have whole : spec.orEmpty = spec := by
      cases spec_truthy : spec.isTruthy with
      | true => simp [Value.orEmpty, spec_truthy]
      | false =>
        rw [Value.orEmpty, spec_truthy] at member
        cases member
    rw [whole] at member
    refine ⟨spec, Value.member?_of_memberOrNull (mapError_eq_ok found) ?_, member, truthy⟩
    rintro rfl
    cases member

namespace Service

/-- What is said and opened before the run, and nothing else. -/
structure Prepares (s next : Service) : Prop where
  settings : next.settings = s.settings
  unsaid : next.exporter.unsaid = s.exporter.unsaid
  ports : next.ports = s.ports

theorem setUpLogging_prepares (unopened : Text → Option FileFault) (terminal : Bool) (s : Service) :
    s.Prepares (s.setUpLogging unopened terminal).2 := by
  unfold setUpLogging
  dsimp only
  split
  · exact ⟨rfl, rfl, rfl⟩
  · refine ⟨rfl, ?_, rfl⟩
    unfold Log.SetupOptions.remarks
    split <;> rfl

theorem loadCredentials_prepares (failure? : Option Failure) (s : Service) :
    s.Prepares (s.loadCredentials failure?).2 := by
  unfold loadCredentials
  dsimp only
  cases s.settings.kubernetes.inCluster <;> cases failure? <;>
    exact ⟨rfl, rfl, by simp [ports, opening, info, say]⟩

/-- An identifier is known, and nothing was done for it but to ask for the cluster version. -/
theorem identify_eq_ok {s named : Service} {clusterId : Value}
    (identified : s.identify = (.ok clusterId, named)) :
    ∃ calls, s.settings.Identifies s.exporter.api calls clusterId ∧
      named.settings = s.settings ∧ named.ports = s.ports ∧
      named.exporter.unsaid = (s.exporter.called calls).unsaid := by
  unfold identify at identified
  split at identified
  · next c id configured =>
    cases identified
    exact ⟨[], .configured configured nofun, rfl, rfl, by simp [Exporter.called]⟩
  · next unnamed =>
    have missing : ∀ t, s.settings.exporter.clusterId = some t → t = [] := by
      rintro (- | ⟨c, id⟩) configured
      · rfl
      · exact absurd configured (unnamed c id)
    unfold Exporter.discoverClusterId at identified
    dsimp only [Exporter.call] at identified
    cases answered : s.exporter.api.clusterVersion with
    | error failure =>
      rw [answered] at identified
      cases failure <;> cases identified
    | ok version =>
      rw [answered] at identified
      cases found : clusterIdOf version with
      | error failure =>
        simp only [found] at identified
        cases identified
      | ok id =>
        simp only [found] at identified
        cases identified
        obtain ⟨spec, member, named, truthy⟩ := clusterIdOf_eq_ok found
        exact ⟨_, .discovered missing answered member named truthy, rfl, rfl, rfl⟩

theorem aim_eq_ok {clusterId : Value} {s last : Service} {target : Target}
    (aimed : s.aim clusterId = (.ok target, last)) :
    target = targetFor s.settings clusterId ∧ last.settings = s.settings ∧
      last.exporter.unsaid = s.exporter.unsaid ∧ last.ports = s.ports := by
  unfold aim at aimed
  split at aimed
  · cases aimed
  · dsimp only at aimed
    split at aimed <;> cases aimed <;> exact ⟨rfl, rfl, rfl, rfl⟩

/-- A service that is set up, stage by stage. -/
theorem setUp_eq_ok {w : Surroundings} {s last : Service} {target : Target}
    (made : s.setUp w = (.ok target, last)) :
    ∃ clusterId calls, s.settings.Identifies s.exporter.api calls clusterId ∧
      target = targetFor s.settings clusterId ∧ last.settings = s.settings ∧
      last.ports = s.ports ∧
      last.exporter.unsaid = (s.exporter.called calls).unsaid := by
  unfold setUp at made
  have first := s.setUpLogging_prepares w.unopened w.terminal
  rcases logged : s.setUpLogging w.unopened w.terminal with ⟨trouble | done, logging⟩ <;>
    rw [logged] at first made
  · cases made
  have second := logging.loadCredentials_prepares w.credentials
  rcases loaded : logging.loadCredentials w.credentials with ⟨trouble | done, granted⟩ <;>
    rw [loaded] at second <;> simp only [loaded] at made
  · cases made
  rcases identified : granted.identify with ⟨trouble | clusterId, named⟩ <;>
    simp only [identified] at made
  · cases made
  have unsaid := second.unsaid.trans first.unsaid
  have api : granted.exporter.unsaid.api = s.exporter.unsaid.api := congrArg _ unsaid
  obtain ⟨calls, identifies, settings', ports', unsaid'⟩ := identify_eq_ok identified
  obtain ⟨aims, settings'', unsaid'', ports''⟩ := aim_eq_ok made
  have settings := second.settings.trans first.settings
  rw [show granted.exporter.api = s.exporter.api from api, settings] at identifies
  rw [settings', settings] at aims settings''
  refine ⟨clusterId, calls, identifies, aims, settings'', ?_, ?_⟩
  · rw [ports'', ports', second.ports, first.ports]
  · rw [unsaid'', unsaid', Exporter.called_unsaid, unsaid, Exporter.called_unsaid]

/-! ## The run in one go -/

theorem startThreads_ports (target : Target) (s : Service) :
    (s.startThreads target).ports = s.ports := by
  rw [startThreads_eq, startHealth_ports]
  rfl

theorem runController_ports (target : Target) (w : Surroundings) (s : Service) :
    (s.runController target w).ports = s.ports := by
  unfold runController
  dsimp only
  split
  · split <;> rfl
  · split
    · split <;> rfl
    · rfl

theorem finish_ports (s : Service) : s.finish.ports = s.ports := by
  unfold finish
  dsimp only
  split <;> rfl

theorem run_ports (target : Target) (w : Surroundings) (s : Service) :
    (s.run target w).2.ports = s.ports ++ [s.settings.exporter.metricsPort] := by
  have serves := s.serveMetrics_ports w.listening
  unfold run
  rcases served : s.serveMetrics w.listening with ⟨failure | done, next⟩ <;> rw [served] at serves
  · exact serves
  · exact (finish_ports _).trans ((runController_ports target w _).trans
      ((startThreads_ports target next).trans serves))

end Service

namespace Program

theorem finish_ports (target : Target) (w : Surroundings) (s : Service) :
    (finish target w s).2.ports = s.ports ++ [s.settings.exporter.metricsPort] := by
  have opened := s.run_ports target w
  unfold finish
  split
  · next ran => rw [ran] at opened; exact opened
  · next ran => rw [ran] at opened; exact opened
  · next ran =>
    rw [ran] at opened
    split <;> exact opened

theorem finish_uses {target : Target} {s : Service} (w : Surroundings) (unfailed : s.failed = false)
    (uses : s.Uses target s) : s.Uses target (finish target w s).2 := by
  refine ⟨finish_settings target w s, ?_, ?_⟩
  · obtain ⟨turns, -, same⟩ := finish_is_an_order target (w := w) unfailed
    have begun : s.Uses target (Threads.begun w s).present := uses
    exact (Threads.execute_uses turns begun).serves.of_unsaid same.symm
  · rw [finish_ports]
    intro port member
    rcases List.mem_append.mp member with old | last
    · exact uses.ports port old
    · exact List.mem_singleton.mp last

/-- The status of a service, as its identifier and settings give it. -/
def statusOf (settings : Settings) (clusterId : Text) (running : Bool) (tracked : Nat) (now : Text) :
    Value :=
  .object [(Text.ofString "cluster_id", .text clusterId),
    (Text.ofString "aggregation_interval", .float settings.exporter.interval),
    (Text.ofString "aggregator_running", .bool running),
    (Text.ofString "tracked_series", .int tracked),
    (Text.ofString "timestamp", .text now),
    (Text.ofString "config", settings.report)]

/-- For whatever command line, settings and cluster a service is set up with: a flag for a number
counts whenever it is given, a flag for a text if that is not empty, and else what was loaded. The
cluster version is asked for once if no identifier was configured then, and else never. In the run in
one go, and whatever the order in which the threads and signals take their turns: only the target's
namespace is asked for, only its identifier is stored under, and metrics are served at the final port
alone. The status tells the identifier that is used, and the configuration as it was settled, unless
one of them holds half of a surrogate pair: then no answer can be made. -/
theorem final_values_are_used_throughout (default loaded : Settings) (logging : Log.Logging)
    (w : Surroundings) (words : List Text) (a : CommandLine.Arguments) (target : Target) (s : Service)
    (parsed : CommandLine.parse (defaultConfig w.environment) words = .ok (.run a))
    (read : Settings.load default w a.config = .ok loaded)
    (made : (Service.initial (a.onto loaded) logging w.api).setUp w = (.ok target, s)) :
    a.Merged loaded.exporter s.settings.exporter ∧
    s.settings = { loaded with exporter := s.settings.exporter } ∧
    s.settings.Identifies w.api s.exporter.calls target.clusterId ∧
    target = Service.targetFor s.settings target.clusterId ∧
    (∃ last, (run default logging w words).2 = some last ∧ s.Uses target last ∧
      last.ports = [s.settings.exporter.metricsPort]) ∧
    (∀ turns, s.Uses target (Threads.execute target w turns (.begun w s)).present) ∧
    ∀ last, s.Uses target last → ∀ running,
      (last.view target running).clusterId = target.clusterId ∧
      (last.view target running).interval = .float s.settings.exporter.interval ∧
      (last.view target running).config = s.settings.report ∧
      s.settings.report.member? (Text.ofString "exporter") = some s.settings.exporter.describe ∧
      ∀ id, target.clusterId = .text id → ∀ now,
        Health.handle (last.view target running) (Text.ofString "GET") (Text.ofString "/status") now =
          Health.reply [.text id, s.settings.report]
            (statusOf s.settings id running last.exporter.metrics.store.length now) := by
  obtain ⟨clusterId, calls, identifies, aims, settings, ports, unsaid⟩ := Service.setUp_eq_ok made
  have asked : s.exporter.unsaid.calls = calls := (congrArg _ unsaid).trans (List.nil_append calls)
  have stored : s.exporter.unsaid.metrics = ⟨[], []⟩ := congrArg _ unsaid
  have unfailed : s.failed = false := by
    have kept := (Service.initial (a.onto loaded) logging w.api).setUp_failed w
    rw [made] at kept
    exact kept
  have fresh : s.Uses target s := by
    refine ⟨rfl, ⟨⟨[], by simp, nofun⟩, ?_⟩, ?_⟩
    · rw [show s.exporter.metrics = ⟨[], []⟩ from stored]
      exact nofun
    · rw [ports]
      exact nofun
  refine ⟨?_, ?_, ?_, ?_, ?_, fun turns => Threads.execute_uses turns fresh, ?_⟩
  · rw [settings]
    exact a.merged_onto loaded
  · rw [settings]
    rfl
  · rw [settings, aims, show s.exporter.calls = calls from asked]
    exact identifies
  · rw [settings, aims]
    rfl
  · refine ⟨(finish target w s).2, ?_, finish_uses w unfailed fresh, ?_⟩
    · simp only [run, parsed, start, read, made]
      rfl
    · rw [finish_ports, ports]
      rfl
  · intro last uses running
    have config : (last.view target running).config = s.settings.report := by
      rw [← uses.settings]
      rfl
    have interval : (last.view target running).interval = .float s.settings.exporter.interval := by
      rw [← uses.settings]
      rfl
    refine ⟨rfl, interval, config, rfl, fun id identified now => ?_⟩
    have named : (last.view target running).clusterId = .text id := identified
    have answer : Health.status (last.view target running) now =
        .ok (statusOf s.settings id running last.exporter.metrics.store.length now) := by
      unfold Health.status
      rw [named, interval, config]
      rfl
    have asked : Health.handle (last.view target running) (Text.ofString "GET")
        (Text.ofString "/status") now = Health.Endpoint.status.answer (last.view target running) now :=
      rfl
    rw [asked, Health.Endpoint.answer, answer, named, config]

/-- A place without a file, in which the cluster version names the cluster. -/
def versioned (id : String) : Surroundings :=
  { Surroundings.refusing with
    api := { Api.empty with
      cluster := some (.ok (.object [(Text.ofString "spec", .object
        [(Text.ofString "clusterID", .text (Text.ofString id))])])) } }

/-- Empty flags leave what was loaded, which has no identifier here, and a port of zero counts. -/
theorem flag_of_zero_counts_and_empty_flags_do_not :
    let default := { Settings.east with exporter.clusterId := none }
    let logging : Log.Logging := ⟨30, [], 0, [], []⟩
    let w := versioned "c1"
    let words :=
      ["--cluster-id", "", "--metrics-port", "0", "--namespace", ""].map Text.ofString
    ∃ a loaded target s last,
      CommandLine.parse (defaultConfig w.environment) words = .ok (.run a) ∧
      Settings.load default w a.config = .ok loaded ∧
      (Service.initial (a.onto loaded) logging w.api).setUp w = (.ok target, s) ∧
      (run default logging w words).2 = some last ∧ last.ports = [0] ∧
      target.ns = .text (Text.ofString "machines") ∧
      s.exporter.calls = [.clusterVersion (.int 30)] ∧ s.Uses target last := by
  intro default logging w words
  have evaluated : ((CommandLine.parse (defaultConfig w.environment) words).toOption.bind fun
      | .help => none
      | .run a => (Settings.load default w a.config).toOption.bind fun loaded =>
        let made := (Service.initial (a.onto loaded) logging w.api).setUp w
        made.1.toOption.map fun _ => (made.2.settings.exporter.clusterId,
          made.2.settings.exporter.metricsPort, made.2.settings.exporter.ns,
          made.2.settings.kubernetes.requestTimeout)) =
      some (none, 0, Text.ofString "machines", 30) := by decide +kernel
  obtain ⟨request, parsed, evaluated⟩ := Option.bind_eq_some_iff.mp evaluated
  cases request with
  | help => cases evaluated
  | run a =>
    obtain ⟨loaded, read, evaluated⟩ := Option.bind_eq_some_iff.mp evaluated
    obtain ⟨target, aimed, evaluated⟩ := Option.map_eq_some_iff.mp evaluated
    have parsed := eq_ok_of_toOption parsed
    have read := eq_ok_of_toOption read
    rcases made : (Service.initial (a.onto loaded) logging w.api).setUp w with ⟨outcome, s⟩
    rw [made] at aimed evaluated
    obtain rfl : outcome = .ok target := eq_ok_of_toOption aimed
    simp only [Prod.mk.injEq] at evaluated
    obtain ⟨unnamed, port, ns, timeout⟩ := evaluated
    obtain ⟨-, -, identifies, aims, ⟨last, ran, uses, ports⟩, -⟩ :=
      final_values_are_used_throughout default loaded logging w words a target s parsed read made
    refine ⟨a, loaded, target, s, last, parsed, read, made, ran, port ▸ ports, ?_, ?_, uses⟩
    · rw [aims, Service.targetFor, ns]
    · generalize target.clusterId = id, s.exporter.calls = calls at identifies
      cases identifies with
      | configured named => cases unnamed.symm.trans named
      | discovered => rw [timeout]

end Program

end ControlPlaneMetrics
