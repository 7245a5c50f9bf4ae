import ControlPlaneMetrics.Proofs.Threads

/-!
How a service that is set up ends, in one go and in whatever order of its threads: the exit status
tells whether there was a failure, and nothing is left running that a stop is to end.
-/
namespace ControlPlaneMetrics

/-- The controller's whole run, when everything has been started. -/
def Service.controllerRun (target : Target) (w : Surroundings) (s : Service) :
    Except Failure Unit × Watcher × List Stream :=
  let started := (s.serveMetrics none).2.startThreads target
  Watcher.run target w.streams ⟨started.exporter, false, 0, false, false⟩

namespace Service

theorem setUpLogging_failed (unopened : Text → Option FileFault) (terminal : Bool) (s : Service) :
    (s.setUpLogging unopened terminal).2.failed = s.failed := by
  unfold setUpLogging
  dsimp only
  split <;> rfl

theorem loadCredentials_failed (failure? : Option Failure) (s : Service) :
    (s.loadCredentials failure?).2.failed = s.failed := by
  unfold loadCredentials
  dsimp only
  split <;> split <;> rfl

theorem identify_failed (s : Service) : s.identify.2.failed = s.failed := by
  unfold identify
  split
  · rfl
  · split <;> rfl

theorem aim_failed (clusterId : Value) (s : Service) : (s.aim clusterId).2.failed = s.failed := by
  unfold aim
  split
  · rfl
  · dsimp only
    split <;> rfl

theorem setUp_failed (w : Surroundings) (s : Service) : (s.setUp w).2.failed = s.failed := by
  unfold setUp
  have logs := s.setUpLogging_failed w.unopened w.terminal
  rcases logged : s.setUpLogging w.unopened w.terminal with ⟨trouble | done, first⟩ <;>
    rw [logged] at logs
  · exact logs
  · have loads := first.loadCredentials_failed w.credentials
    rcases loaded : first.loadCredentials w.credentials with ⟨trouble | done, second⟩ <;>
      rw [loaded] at loads
    · simpa only [loaded] using loads.trans logs
    · have identifies := second.identify_failed
      rcases identified : second.identify with ⟨trouble | clusterId, third⟩ <;>
        rw [identified] at identifies
      · simpa only [loaded, identified] using identifies.trans (loads.trans logs)
      · simpa only [loaded, identified] using
          (third.aim_failed clusterId).trans (identifies.trans (loads.trans logs))

end Service

/-- Metrics cannot be served, or the controller's run has failed. -/
def Faulty (listening : Option Failure) (raised : Prop) : Prop :=
  (∃ failure, listening = some failure ∧ failure.isExit = false) ∨ raised

/-- The exit status is one if there was a failure, and else zero. Only a request to exit that comes
in place of serving metrics goes through. -/
structure Outcome.Settles (outcome : Outcome) (listening : Option Failure) (raised : Prop) :
    Prop where
  one : outcome.status? = some 1 ↔ Faulty listening raised
  zero : ¬Faulty listening raised → outcome.status? = some 0 ∨
    ∃ name text, listening = some (.foreign .exit name text) ∧
      outcome = .escaped (.failure (.foreign .exit name text))

theorem Failure.isExit_cases {failure : Failure} (exits : failure.isExit = true) :
    (∃ name text, failure = .foreign .interrupt name text) ∨
    ∃ name text, failure = .foreign .exit name text := by
  unfold isExit at exits
  split at exits
  · exact .inl ⟨_, _, rfl⟩
  · exact .inr ⟨_, _, rfl⟩
  · cases exits

theorem Threads.conclude_of_failure {failure : Failure} (failed : Bool)
    (stays : failure.isExit = false) : conclude (some failure) failed = .fatal failure := by
  cases failure with
  | foreign kind name text =>
    cases kind with
    | interrupt | exit => cases stays
    | _ => rfl
  | _ => rfl

theorem Threads.conclude_settles {listening : Option Failure} {failed : Bool} {raised : Prop}
    (noted : listening = none → (failed = true ↔ raised)) (apart : raised → listening = none) :
    (conclude listening failed).Settles listening raised := by
  cases listening with
  | none =>
    have same := noted rfl
    cases failed with
    | true => exact ⟨by simp [conclude, Outcome.status?, Faulty, ← same], by simp [Faulty, ← same]⟩
    | false => exact ⟨by simp [conclude, Outcome.status?, Faulty, ← same], fun _ => .inl rfl⟩
  | some failure =>
    have unraised : ¬raised := fun raised => nomatch apart raised
    cases exits : failure.isExit with
    | false =>
      rw [conclude_of_failure failed exits]
      have faulty : Faulty (some failure) raised := .inl ⟨failure, rfl, exits⟩
      exact ⟨⟨fun _ => faulty, fun _ => rfl⟩, fun faultless => absurd faulty faultless⟩
    | true =>
      have faultless : ¬Faulty (some failure) raised := by simp [Faulty, unraised, exits]
      rcases Failure.isExit_cases exits with ⟨name, text, rfl⟩ | ⟨name, text, rfl⟩
      · exact ⟨⟨nofun, fun faulty => absurd faulty faultless⟩, fun _ => .inl rfl⟩
      · exact ⟨⟨nofun, fun faulty => absurd faulty faultless⟩, fun _ => .inr ⟨name, text, rfl, rfl⟩⟩

theorem Program.finish_eq (target : Target) (w : Surroundings) (s : Service) :
    (finish target w s).1 = Threads.conclude w.listening (finish target w s).2.failed := by
  unfold finish Service.run
  cases listening : w.listening with
  | none => rfl
  | some failure =>
    cases failure with
    | foreign kind name text => cases kind <;> rfl
    | _ => rfl

/-- Whether the controller's run fails if nothing comes between its steps. -/
def Service.Raises (target : Target) (w : Surroundings) (s : Service) : Prop :=
  w.listening = none ∧
  ∃ failure, (s.controllerRun target w).1 = .error failure ∧ failure.isExit = false

theorem Service.runController_eq (target : Target) (w : Surroundings) {s : Service}
    (unfailed : s.failed = false) :
    let ran := Watcher.run target w.streams ⟨s.exporter, false, 0, false, false⟩
    ((s.runController target w).failed = true ↔
      ∃ failure, ran.1 = .error failure ∧ failure.isExit = false) ∧
    (s.runController target w).exporter.unsaid = ran.2.1.exporter.unsaid := by
  unfold runController
  rcases Watcher.run target w.streams ⟨s.exporter, false, 0, false, false⟩ with
    ⟨failure | done, last, left⟩
  · cases exits : failure.isExit <;>
      simp [exits, unfailed, say, Exporter.say, Exporter.unsaid]
  · dsimp only
    split
    · split <;> simp [unfailed, signalled, say, Exporter.say, Exporter.unsaid]
    · simp [unfailed]

theorem Service.onlySays_finish : OnlySays Service.finish := by
  intro s
  unfold finish
  dsimp only
  split <;> exact ⟨rfl, rfl⟩

theorem Program.finish_of_served (target : Target) {w : Surroundings} {s : Service}
    (unfailed : s.failed = false) (serves : w.listening = none) :
    ((finish target w s).2.failed = true ↔ s.Raises target w) ∧
    (finish target w s).2.exporter.unsaid = (s.controllerRun target w).2.1.exporter.unsaid := by
  have started : ((s.serveMetrics none).2.startThreads target).failed = false :=
    (Service.onlySays_startThreads target _).1.trans unfailed
  obtain ⟨failed, unsaid⟩ := Service.runController_eq target w started
  obtain ⟨failed', unsaid'⟩ :=
    Service.onlySays_finish (((s.serveMetrics none).2.startThreads target).runController target w)
  have finished : (finish target w s).2 =
      (((s.serveMetrics none).2.startThreads target).runController target w).finish := by
    simp only [finish, Service.run, serves]
    rfl
  rw [finished, failed', failed, unsaid', unsaid]
  exact ⟨⟨fun raises => ⟨serves, raises⟩, And.right⟩, rfl⟩

/-! ## One order among others -/

namespace Threads

variable (target : Target) {w : Surroundings} {s : Service}

variable (w s) in
/-- Everything is started, and the controller's run is about to begin. -/
def started : Threads :=
  let service := (s.serveMetrics none).2.startThreads target
  { begun w s with
    service := service
    controller := ⟨.starting, w.streams, ⟨service.exporter, false, 0, false, false⟩, false⟩
    thread := .running
    main := [.await, .say .info (Text.ofString "CPMS Metrics Exporter stopped")] ++
      stopping.map .stop
    flushing := .running
    kept := true }

theorem execute_started (serves : w.listening = none) :
    execute target w (.replicate 5 .main) (begun w s) = started target w s := by
  simp only [begun, serves]
  simp [execute, advance, mainTurn, deeds, perform, serves]
  rfl

variable (w)

/-- In some order of the turns, the program ends so, with an exporter that has done so much. -/
def CanEnd (t : Threads) (outcome : Outcome) (e : Exporter) : Prop :=
  ∃ turns, (execute target w turns t).outcome? = some outcome ∧
    (execute target w turns t).controller.watcher.exporter.unsaid = e.unsaid

variable {target w}

theorem CanEnd.after {t : Threads} {outcome : Outcome} {e : Exporter} (first : List Turn)
    (later : CanEnd target w (execute target w first t) outcome e) : CanEnd target w t outcome e := by
  obtain ⟨turns, ends⟩ := later
  rw [← execute_append] at ends
  exact ⟨first ++ turns, ends⟩

theorem canEnd_of_free {t : Threads} {e : Exporter} (going : t.outcome? = none)
    (free : t.controller.watcher.stopped = true ∨ .await ∉ t.main)
    (same : t.controller.watcher.exporter.unsaid = e.unsaid) :
    CanEnd target w t (conclude w.listening t.service.failed) e := by
  obtain ⟨ends, unsaid⟩ := main_ends target w t going free
  exact ⟨_, ends, unsaid.trans same⟩

theorem canEnd_by_signal {t : Threads} {e : Exporter} (going : t.outcome? = none)
    (same : t.controller.watcher.exporter.unsaid = e.unsaid) :
    CanEnd target w t (conclude w.listening t.service.failed) e := by
  obtain ⟨ongoing, stopped, failed, unsaid⟩ := signal_stops target w 15 t going
  rw [← failed]
  exact .after _ (canEnd_of_free ongoing (.inl stopped) (unsaid.trans same))

theorem canEnd_of_failing {t : Threads} {e : Exporter} {failure : Failure}
    (failing : t.thread = .failing (aftermath failure)) (going : t.outcome? = none)
    (same : t.controller.watcher.exporter.unsaid = e.unsaid) :
    CanEnd target w t (conclude w.listening true) e := by
  obtain ⟨ongoing, _, unsaid, failed, stopped⟩ := aftermath_done target w _ t failing going
  refine .after (.replicate (aftermath failure).length .controller) ?_
  rw [← failed (.inr (by simp [aftermath]))]
  exact canEnd_of_free ongoing (.inl (stopped (.inr (by simp [aftermath, stopping]))))
    (unsaid.trans same)

theorem canEnd_started (unfailed : s.failed = false) {failed : Bool}
    (noted : failed = true ↔
      ∃ failure, (s.controllerRun target w).1 = .error failure ∧ failure.isExit = false) :
    CanEnd target w (started target w s) (conclude w.listening failed)
      (s.controllerRun target w).2.1.exporter := by
  let watcher := (started target w s).controller.watcher
  have unnoted : (started target w s).service.failed = false :=
    (Service.onlySays_startThreads target (s.serveMetrics none).2).1.trans unfailed
  have leads := Controller.leads_started target (w.ending = .stop) w.streams (w := watcher) rfl
  obtain ⟨n, cause?, runs⟩ := controller_runs target w leads nofun (started target w s) rfl rfl rfl
  refine .after (.replicate n .controller) ?_
  rw [runs]
  have alone : s.controllerRun target w = watcher.run target w.streams := rfl
  rw [alone, Watcher.run_eq] at noted ⊢
  generalize Watcher.rounds target w.streams (watcher.started target) = result at noted ⊢
  rcases result with ⟨failure | ⟨⟩, last, left⟩
  · cases exits : failure.isExit with
    | false =>
      obtain rfl : failed = true := noted.mpr ⟨failure, rfl, exits⟩
      simp only [Controller.Place.after, runEnded, exits, Bool.false_eq_true, if_false]
      exact canEnd_of_failing rfl rfl rfl
    | true =>
      have quiet : failed = false := by simpa [exits] using noted
      rw [quiet, ← unnoted]
      simp only [Controller.Place.after, runEnded, exits, if_true]
      exact canEnd_by_signal rfl rfl
  · have quiet : failed = false := by simpa using noted
    rw [quiet, ← unnoted]
    exact canEnd_by_signal rfl rfl

end Threads

namespace Program

variable (target : Target) {w : Surroundings} {s : Service}

theorem finish_of_unserved {failure : Failure} (broken : w.listening = some failure) :
    (finish target w s).2.failed = s.failed ∧
    (finish target w s).2.exporter.unsaid = s.exporter.unsaid := by
  unfold finish Service.run
  simp only [broken, Service.serveMetrics]
  cases failure with
  | foreign kind name text => cases kind <;> exact ⟨rfl, rfl⟩
  | _ => exact ⟨rfl, rfl⟩

/-- Among the orders is one that comes to what the run in one go comes to. -/
theorem finish_is_an_order (unfailed : s.failed = false) :
    Threads.CanEnd target w (.begun w s) (finish target w s).1 (finish target w s).2.exporter := by
  rw [finish_eq]
  cases listening : w.listening with
  | some failure =>
    obtain ⟨failed, unsaid⟩ := finish_of_unserved (s := s) target listening
    rw [failed, ← listening]
    refine Threads.canEnd_of_free rfl (.inr fun waits => ?_) unsaid.symm
    have serves := (Threads.begun_sound w unfailed).serves (.inr (.inr (.inr waits)))
    cases serves.symm.trans listening
  | none =>
    obtain ⟨noted, unsaid⟩ := finish_of_served target unfailed listening
    rw [Service.Raises, and_iff_right listening] at noted
    refine .after (.replicate 5 .main) ?_
    rw [Threads.execute_started target listening, ← listening]
    have ends := Threads.canEnd_started unfailed noted
    rwa [Threads.CanEnd, ← unsaid] at ends

end Program

/-- The exit status of a program that has set up its service tells a failure from a regular end: if
the run is in one go, it is one if metrics cannot be served or the controller's run fails, and else
zero. And whatever the order in which the threads and any signals take their turns: when the program
ends, the stop event is set, and no flushing goes on that nothing has stopped; a failure of the
controller that has set the stop event first is noted by then, and the exit status is one; if the
controller has failed in no other way, the exit status tells what it tells in one go; and once the
stop event is set, or if metrics cannot be served, the main thread does come to the end. -/
theorem Program.status_tells_failure (default settings : Settings) (logging : Log.Logging)
    (w : Surroundings) (a : CommandLine.Arguments) (target : Target) (s : Service)
    (loaded : Settings.load default w a.config = .ok settings)
    (made : (Service.initial (a.onto settings) logging w.api).setUp w = (.ok target, s)) :
    (start default logging w a).1.Settles w.listening (s.Raises target w) ∧
    ∀ turns,
      let t := Threads.execute target w turns (.begun w s)
      (∀ outcome, t.outcome? = some outcome →
        t.controller.watcher.stopped = true ∧ t.flushing ≠ .running ∧
        (t.cause? = some .failure → t.service.failed = true ∧ outcome.status? = some 1) ∧
        ((t.failure? ≠ none → t.cause? = some .failure) →
          outcome.Settles w.listening (t.failure? ≠ none))) ∧
      (t.controller.watcher.stopped = true ∨ w.listening ≠ none →
        (Threads.execute target w (turns ++ .replicate (t.main.length + 1) .main)
          (.begun w s)).outcome? ≠ none) := by
  have unfailed : s.failed = false := by
    have kept := (Service.initial (a.onto settings) logging w.api).setUp_failed w
    rw [made] at kept
    exact kept
  refine ⟨?_, fun turns => ?_⟩
  · have ran : (start default logging w a).1 = (finish target w s).1 := by
      simp only [start, loaded, made]
      rfl
    rw [ran, finish_eq]
    refine Threads.conclude_settles (fun serves => ?_) And.left
    exact (finish_of_served target unfailed serves).1
  · intro t
    have sound : Threads.Sound w t := (Threads.begun_sound w unfailed).execute turns
    refine ⟨fun outcome ended => ?_, fun free => ?_⟩
    · obtain ⟨done, rfl⟩ := sound.concludes outcome ended
      have closes := sound.closes
      rw [done] at closes
      have stopped : t.controller.watcher.stopped = true := by
        rcases sound.stops with stopped | member
        · exact stopped
        · rw [done] at member
          cases member
      refine ⟨stopped, closes, fun first => ?_, fun apart => ?_⟩
      · have failed := sound.noted first
        have serves := sound.serves (.inl (sound.raised failed))
        exact ⟨failed, by simp [serves, failed, Threads.conclude, Outcome.status?]⟩
      · refine Threads.conclude_settles (fun _ => ⟨sound.raised, ?_⟩) fun raised =>
          sound.serves (.inl raised)
        exact fun raised => sound.noted (apart raised)
    · rw [Threads.execute_append]
      cases ended : t.outcome? with
      | some outcome =>
        rw [Threads.execute_of_ended target w (ended ▸ nofun)]
        exact ended ▸ nofun
      | none =>
        obtain ⟨ends, _⟩ := Threads.main_ends target w t ended
          (free.imp_right fun broken waits => broken (sound.serves (.inr (.inr (.inr waits)))))
        exact ends ▸ nofun

/-- Settings for a cluster, without health endpoints. -/
def Settings.east : Settings where
  environment := Text.ofString "production"
  debug := false
  kubernetes := ⟨true, none, 30, 300⟩
  exporter := ⟨some (Text.ofString "east"), .one, Text.ofString "machines", 8383⟩
  api := ⟨false, Text.ofString "0.0.0.0", 8081⟩
  logging := ⟨Text.ofString "INFO", Text.ofString "%(message)s", none, false⟩

/-- A place where the API refuses the first listing. -/
def Surroundings.refusing : Surroundings where
  environment := []
  variableFile := none
  file _ := none
  unopened _ := none
  terminal := false
  api := { Api.empty with
    listings := [.error (.api (.int 500) (.text (Text.ofString "Internal Server Error")))] }
  streams := []
  credentials := none
  listening := none
  ending := .stop

/-- The refusal ends the controller's run. A signal comes when the stop event is already set, and
changes nothing. -/
theorem Program.status_tells_refused_listing :
    let logging : Log.Logging := ⟨30, [], 0, [], []⟩
    let w := Surroundings.refusing
    let a : CommandLine.Arguments := ⟨Text.ofString "config.yaml", none, none, none, none⟩
    let turns : List Threads.Turn :=
      .replicate 6 .main ++ .replicate 6 .controller ++ .signal 15 :: .replicate 10 .main
    ∃ settings target s, Settings.load .east w a.config = .ok settings ∧
      (Service.initial (a.onto settings) logging w.api).setUp w = (.ok target, s) ∧
      (Threads.execute target w turns (.begun w s)).cause? = some .failure ∧
      ∃ outcome, (Threads.execute target w turns (.begun w s)).outcome? = some outcome ∧
        outcome.status? = some 1 := by
  intro logging w a turns
  have evaluated : ((Settings.load .east w a.config).toOption.bind fun settings =>
      let made := (Service.initial (a.onto settings) logging w.api).setUp w
      made.1.toOption.bind fun target =>
        let t := Threads.execute target w turns (.begun w made.2)
        t.outcome?.bind fun _ => t.cause?) = some .failure := by decide +kernel
  rcases loaded : Settings.load .east w a.config with fault | settings <;> rw [loaded] at evaluated
  · cases evaluated
  · obtain ⟨_, ⟨⟩, evaluated⟩ := Option.bind_eq_some_iff.mp evaluated
    rcases made : (Service.initial (a.onto settings) logging w.api).setUp w with
      ⟨trouble | target, s⟩ <;> rw [made] at evaluated
    · cases evaluated
    · obtain ⟨_, ⟨⟩, evaluated⟩ := Option.bind_eq_some_iff.mp evaluated
      obtain ⟨outcome, ended, first⟩ := Option.bind_eq_some_iff.mp evaluated
      obtain ⟨_, orders⟩ := status_tells_failure .east settings logging w a target s loaded made
      obtain ⟨_, _, noted, _⟩ := (orders turns).1 outcome ended
      exact ⟨settings, target, s, rfl, made, first, outcome, ended, (noted first).2⟩

end ControlPlaneMetrics
