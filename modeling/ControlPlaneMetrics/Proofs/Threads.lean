import ControlPlaneMetrics.Proofs.ControllerSteps
import ControlPlaneMetrics.Service

/-!
How the service ends, whatever the order of its threads. The main thread and the controller's thread
do one thing a turn. A signal is handled by the main thread before whatever that has left to do. The
exit status is settled when the main thread has done everything; it depends on whether the
controller's failure was noted by then.
-/
namespace ControlPlaneMetrics

namespace Threads

/-- What a stop of the service does. -/
inductive Stopping where
  | setEvent
  | stopWatch
  | stopFlushing

/-- What the main thread has to do. -/
inductive Deed where
  | serve
  | startFlushing
  /-- The event that ends the flushing is made known to later stops. -/
  | keepFlushing
  | startHealth
  | startController
  /-- Nothing is done before the stop event is set. -/
  | await
  | say (severity : Log.Severity) (t : Text)
  | signalled (number : Nat)
  | stop (s : Stopping)

/-- What the controller's thread has to do when its run has failed. -/
inductive Aftermath where
  | report (failure : Failure)
  | noteFailure
  | stop (s : Stopping)

inductive Thread where
  | unstarted
  | running
  | failing (left : List Aftermath)
  | over

/-- Whether there are flushes by the clock, and whether the event that ends them is set. -/
inductive Flushing where
  | never
  | running
  | stopped
  deriving DecidableEq

def Flushing.stop : Flushing → Flushing
  | never => never
  | _ => stopped

/-- What sets the stop event. -/
inductive Cause where
  | failure
  | other
  deriving DecidableEq

inductive Turn where
  | main
  | controller
  | signal (number : Nat)
  deriving DecidableEq

end Threads

structure Threads where
  /-- Its exporter is that of the controller, which all work on. -/
  service : Service
  controller : Controller
  thread : Threads.Thread
  /-- What the controller's run has raised, unless that is a request to exit. -/
  failure? : Option Failure
  /-- What the main thread has yet to do. -/
  main : List Threads.Deed
  flushing : Threads.Flushing
  /-- Whether a stop knows of the flushing. -/
  kept : Bool
  /-- What set the stop event first. -/
  cause? : Option Threads.Cause
  outcome? : Option Outcome

/-- The exporter but for what it has said. -/
def Exporter.unsaid (e : Exporter) : Exporter := { e with lines := [] }

namespace Service

/-- Flushing by the clock begins. -/
def startFlushing (target : Target) (s : Service) : Service :=
  { s with
    exporter := s.exporter.flushingStarted (.float s.settings.exporter.interval) target.clusterId }

/-- The health endpoints are served if they are enabled. -/
def startHealth (s : Service) : Service :=
  let endpoint := s.settings.api
  if endpoint.enabled then
    let port := Text.ofInt endpoint.port
    let s := (s.opening (.health endpoint.host endpoint.port)).say .info
      (Text.ofString "API server started on :" ++ port)
    let starting := Text.ofString "Starting API server on " ++ endpoint.host ++ .char ':' :: port
    { s with exporter := s.exporter.say .info .server starting }
  else s

theorem startThreads_eq (target : Target) (s : Service) :
    s.startThreads target = (s.startFlushing target).startHealth := rfl

/-- It is said what happens, and nothing else is done to the exporter or noted of a failure. -/
def OnlySays (f : Service → Service) : Prop :=
  ∀ s, (f s).failed = s.failed ∧ (f s).exporter.unsaid = s.exporter.unsaid

theorem onlySays_serveMetrics (failure? : Option Failure) :
    OnlySays fun s => (s.serveMetrics failure?).2 := by
  intro s
  cases failure? <;> exact ⟨rfl, rfl⟩

theorem onlySays_startHealth : OnlySays startHealth := by
  intro s
  unfold startHealth
  dsimp only
  split <;> exact ⟨rfl, rfl⟩

theorem onlySays_startThreads (target : Target) : OnlySays (·.startThreads target) := by
  intro s
  obtain ⟨failed, unsaid⟩ := onlySays_startHealth (s.startFlushing target)
  simp only [startThreads_eq]
  exact ⟨failed, unsaid⟩

end Service

namespace Threads

def stopping : List Stopping := [.setEvent, .stopWatch, .stopFlushing]

def aftermath (failure : Failure) : List Aftermath :=
  .report failure :: .noteFailure :: stopping.map .stop

/-- What is said of a failure to serve metrics, unless it is a request to exit. -/
def report : Failure → List Deed
  | .foreign .interrupt _ _ => [.say .info (Text.ofString "Received keyboard interrupt")]
  | failure =>
    if failure.isExit then []
    else [.say .error (Text.ofString "Fatal error: " ++ failure.message)]

/-- What the main thread does in a run that metrics can or cannot be served in. -/
def deeds : Option Failure → List Deed
  | none => [.serve, .startFlushing, .keepFlushing, .startHealth, .startController, .await,
      .say .info (Text.ofString "CPMS Metrics Exporter stopped")] ++ stopping.map .stop
  | some failure => .serve :: report failure ++ stopping.map .stop

/-- How the run ends when all is done. -/
def conclude (listening : Option Failure) (failed : Bool) : Outcome :=
  match listening with
  | none => .stopped failed
  | some (.foreign .interrupt _ _) => .interrupted
  | some failure => if failure.isExit then .escaped (.failure failure) else .fatal failure

/-- A service that is set up is about to run. -/
def begun (w : Surroundings) (s : Service) : Threads where
  service := s
  controller := ⟨.starting, w.streams, ⟨s.exporter, false, 0, false, false⟩, false⟩
  thread := .unstarted
  failure? := none
  main := deeds w.listening
  flushing := .never
  kept := false
  cause? := none
  outcome? := none

def onService (f : Service → Service) (t : Threads) : Threads :=
  let s := f { t.service with exporter := t.controller.watcher.exporter }
  { t with service := s, controller.watcher.exporter := s.exporter }

def stop (cause : Cause) (t : Threads) : Stopping → Threads
  | .setEvent =>
    { t with controller.watcher.stopped := true, cause? := t.cause?.or (some cause) }
  | .stopWatch => { t with controller := t.controller.stopWatch }
  | .stopFlushing => if t.kept then { t with flushing := t.flushing.stop } else t

variable (target : Target) (w : Surroundings)

def perform (t : Threads) : Deed → Threads
  | .serve => t.onService fun s => (s.serveMetrics w.listening).2
  | .startFlushing => { t.onService (·.startFlushing target) with flushing := .running }
  | .keepFlushing => { t with kept := true }
  | .startHealth => t.onService Service.startHealth
  | .startController => { t with thread := .running }
  | .await => t
  | .say severity text => t.onService (·.say severity text)
  | .signalled number => t.onService (·.signalled number)
  | .stop s => t.stop .other s

def mainTurn (t : Threads) : Threads :=
  match t.main with
  | [] => { t with outcome? := some (conclude w.listening t.service.failed) }
  | .await :: rest => if t.controller.watcher.stopped then { t with main := rest } else t
  | deed :: rest => { t with main := rest }.perform target w deed

def respond (t : Threads) : Aftermath → Threads
  | .report failure =>
    t.onService (·.say .error (Text.ofString "Controller terminated: " ++ failure.message))
  | .noteFailure => { t with service.failed := true }
  | .stop s => t.stop .failure s

/-- The controller's thread when its run has ended. A failure has to be seen to; a request to exit
ends the thread. -/
def runEnded (outcome : Except Failure Unit) (t : Threads) : Threads :=
  match outcome with
  | .ok () => { t with thread := .over }
  | .error failure =>
    if failure.isExit then { t with thread := .over }
    else { t with thread := .failing (aftermath failure), failure? := some failure }

/-- A step of the controller's run. -/
def controllerStep (t : Threads) : Threads :=
  let c := t.controller.step target (w.ending = .stop)
  let t := { t with
    controller := c
    cause? := if c.watcher.stopped then t.cause?.or (some .other) else t.cause? }
  match c.place with
  | .ended outcome => t.runEnded outcome
  | _ => t

def controllerTurn (t : Threads) : Threads :=
  match t.thread with
  | .running => t.controllerStep target w
  | .failing (deed :: rest) => { t with thread := .failing rest }.respond deed
  | _ => t

/-- One turn. When the main thread has come to its end, so has the program. -/
def advance (t : Threads) (turn : Turn) : Threads :=
  if t.outcome?.isSome then t
  else match turn with
    | .main => t.mainTurn target w
    | .controller => t.controllerTurn target w
    | .signal number => { t with main := .signalled number :: stopping.map .stop ++ t.main }

def execute : List Turn → Threads → Threads
  | [], t => t
  | turn :: rest, t => execute rest (t.advance target w turn)

/-! ## What every turn keeps -/

/-- After all that the main thread has to do, no flushing goes on that nothing has stopped. -/
def Closes (flushing : Flushing) (kept : Bool) : List Deed → Prop
  | [] => flushing ≠ .running
  | .startFlushing :: rest => Closes .running kept rest
  | .keepFlushing :: rest => Closes flushing true rest
  | .stop .stopFlushing :: rest => Closes (if kept then flushing.stop else flushing) kept rest
  | _ :: rest => Closes flushing kept rest

/-- The failure is noted before the stop event is set. -/
def Notes (failed : Bool) : List Aftermath → Prop
  | [] => True
  | .noteFailure :: rest => Notes true rest
  | .stop .setEvent :: rest => failed = true ∧ Notes failed rest
  | _ :: rest => Notes failed rest

structure Sound (t : Threads) : Prop where
  stops : t.controller.watcher.stopped = true ∨ .stop .setEvent ∈ t.main
  closes : Closes t.flushing t.kept t.main
  notes : ∀ left, t.thread = .failing left → t.failure? ≠ none ∧ Notes t.service.failed left
  noted : t.cause? = some .failure → t.service.failed = true
  raised : t.service.failed = true → t.failure? ≠ none
  serves : t.failure? ≠ none ∨ t.thread ≠ .unstarted ∨ .startController ∈ t.main ∨
    .await ∈ t.main → w.listening = none
  concludes : ∀ outcome, t.outcome? = some outcome →
    t.main = [] ∧ outcome = conclude w.listening t.service.failed

theorem stop_stop (flushing : Flushing) : flushing.stop.stop = flushing.stop := by
  cases flushing <;> rfl

/-- Whatever stops the flushing early does no harm. -/
theorem Closes.stop {flushing : Flushing} {kept : Bool} {main : List Deed}
    (closes : Closes flushing kept main) : Closes flushing.stop kept main := by
  induction main generalizing flushing kept with
  | nil => cases flushing <;> nofun
  | cons deed rest ih =>
    cases deed with
    | startFlushing => exact closes
    | keepFlushing =>
      have known : Closes flushing true rest := closes
      exact ih known
    | stop s =>
      cases s with
      | stopFlushing =>
        cases kept with
        | true => simpa [Closes, stop_stop] using closes
        | false =>
          have unknown : Closes flushing false rest := closes
          exact ih unknown
      | _ => exact ih closes
    | _ => exact ih closes

theorem report_cases (failure : Failure) :
    report failure = [] ∨ ∃ severity t, report failure = [.say severity t] := by
  unfold report
  split
  · exact .inr ⟨_, _, rfl⟩
  · split
    · exact .inl rfl
    · exact .inr ⟨_, _, rfl⟩

theorem begun_sound {s : Service} (unfailed : s.failed = false) : Sound w (begun w s) where
  stops := by
    refine .inr ?_
    cases listening : w.listening <;> simp [begun, deeds, listening, stopping]
  closes := by
    cases listening : w.listening with
    | none => simp [begun, deeds, listening, stopping, Closes, Flushing.stop]
    | some failure =>
      rcases report_cases failure with none | ⟨_, _, said⟩ <;>
        simp [begun, deeds, stopping, Closes, *]
  notes := nofun
  noted := nofun
  raised failed := by cases unfailed.symm.trans failed
  serves := by
    rintro (raised | started | member)
    · exact absurd rfl raised
    · exact absurd rfl started
    · cases listening : w.listening with
      | none => rfl
      | some failure =>
        rcases report_cases failure with none | ⟨_, _, said⟩ <;>
          simp [begun, deeds, stopping, *] at member
  concludes := nofun

/-- What a deed of the main thread leaves as it is. -/
structure Kept (t next : Threads) : Prop where
  failed : next.service.failed = t.service.failed
  unsaid : next.controller.watcher.exporter.unsaid = t.controller.watcher.exporter.unsaid
  failure? : next.failure? = t.failure?
  main : next.main = t.main
  outcome? : next.outcome? = t.outcome?
  stopped : t.controller.watcher.stopped = true → next.controller.watcher.stopped = true
  cause? : next.cause? = some .failure ↔ t.cause? = some .failure

theorem kept_onService {f : Service → Service} (quiet : Service.OnlySays f) (t : Threads) :
    Kept t (t.onService f) := by
  obtain ⟨failed, unsaid⟩ := quiet { t.service with exporter := t.controller.watcher.exporter }
  exact ⟨failed, unsaid, rfl, rfl, rfl, id, .rfl⟩

theorem kept_stop (t : Threads) (s : Stopping) : Kept t (t.stop .other s) := by
  cases s with
  | setEvent =>
    refine ⟨rfl, rfl, rfl, rfl, rfl, fun _ => rfl, ?_⟩
    cases first : t.cause? <;> simp [stop, first]
  | stopWatch =>
    refine ⟨rfl, ?_, rfl, rfl, rfl, fun stopped => ?_, .rfl⟩
    · simp [stop, Controller.stopWatch]
    · simpa [stop, Controller.stopWatch] using stopped
  | stopFlushing =>
    unfold stop
    dsimp only
    split <;> exact ⟨rfl, rfl, rfl, rfl, rfl, id, .rfl⟩

theorem kept_perform (t : Threads) (deed : Deed) : Kept t (t.perform target w deed) := by
  cases deed with
  | serve => exact kept_onService (Service.onlySays_serveMetrics w.listening) t
  | startHealth => exact kept_onService Service.onlySays_startHealth t
  | stop s => exact kept_stop t s
  | _ => exact ⟨rfl, rfl, rfl, rfl, rfl, id, .rfl⟩

theorem perform_thread (t : Threads) (deed : Deed) :
    (t.perform target w deed).thread = t.thread ∨
    (deed = .startController ∧ (t.perform target w deed).thread = .running) := by
  cases deed with
  | startController => exact .inr ⟨rfl, rfl⟩
  | stop s =>
    cases s with
    | stopFlushing =>
      simp only [perform, stop]
      split <;> exact .inl rfl
    | _ => exact .inl rfl
  | _ => exact .inl rfl

theorem perform_closes {t : Threads} {deed : Deed} {rest : List Deed}
    (closes : Closes t.flushing t.kept (deed :: rest)) :
    Closes (t.perform target w deed).flushing (t.perform target w deed).kept rest := by
  cases deed with
  | stop s =>
    cases s with
    | stopFlushing =>
      simp only [perform, stop]
      cases kept : t.kept <;> simpa [Closes, kept] using closes
    | _ => exact closes
  | _ => exact closes

variable {target w}

theorem Sound.perform {t : Threads} {deed : Deed} {rest : List Deed} (sound : Sound w t)
    (left : t.main = deed :: rest) (going : t.outcome? = none) :
    Sound w ({ t with main := rest }.perform target w deed) := by
  have kept := kept_perform target w { t with main := rest } deed
  have threads := perform_thread target w { t with main := rest } deed
  have closes := sound.closes
  rw [left] at closes
  have closed := perform_closes target w (t := { t with main := rest }) closes
  generalize done : ({ t with main := rest } : Threads).perform target w deed = next
    at kept threads closed
  refine ⟨?_, kept.main ▸ closed, ?_, ?_, ?_, ?_, ?_⟩
  · rcases sound.stops with stopped | member
    · exact .inl (kept.stopped stopped)
    · rw [left] at member
      rcases List.mem_cons.mp member with rfl | later
      · exact .inl (done ▸ rfl)
      · exact .inr (kept.main ▸ later)
  · intro aftermath failing
    rcases threads with same | ⟨_, running⟩
    · obtain ⟨raised, notes⟩ := sound.notes aftermath (same ▸ failing)
      exact ⟨kept.failure? ▸ raised, kept.failed ▸ notes⟩
    · cases running ▸ failing
  · intro first
    exact kept.failed.trans (sound.noted (kept.cause?.mp first))
  · intro failed
    exact kept.failure? ▸ sound.raised (kept.failed.symm.trans failed)
  · rintro (raised | started | member)
    · exact sound.serves (.inl (kept.failure? ▸ raised))
    · rcases threads with same | ⟨rfl, _⟩
      · exact sound.serves (.inr (.inl (same ▸ started)))
      · exact sound.serves (.inr (.inr (.inl (left ▸ List.mem_cons_self))))
    · rw [kept.main] at member
      refine sound.serves (.inr (.inr ?_))
      rw [left]
      exact member.imp (List.mem_cons_of_mem deed) (List.mem_cons_of_mem deed)
  · intro outcome concluded
    rw [kept.outcome?, going] at concluded
    cases concluded

theorem Sound.mainTurn {t : Threads} (sound : Sound w t) (going : t.outcome? = none) :
    Sound w (t.mainTurn target w) := by
  unfold Threads.mainTurn
  split
  · next done =>
    refine { sound with concludes := ?_ }
    rintro _ ⟨⟩
    exact ⟨done, rfl⟩
  · next rest left =>
    split
    · have waited : Sound w ({ t with main := rest }.perform target w .await) :=
        sound.perform left going
      exact waited
    · exact sound
  · next deed rest _ left => exact sound.perform left going

theorem Sound.signal {t : Threads} (sound : Sound w t) (going : t.outcome? = none) (number : Nat) :
    Sound w { t with main := .signalled number :: stopping.map .stop ++ t.main } where
  stops := .inr (by simp [stopping])
  closes := by
    change Closes (if t.kept then t.flushing.stop else t.flushing) t.kept t.main
    split
    · exact sound.closes.stop
    · exact sound.closes
  notes := sound.notes
  noted := sound.noted
  raised := sound.raised
  serves := by
    rintro (raised | started | member)
    · exact sound.serves (.inl raised)
    · exact sound.serves (.inr (.inl started))
    · exact sound.serves (.inr (.inr (by simpa [stopping] using member)))
  concludes := by
    intro outcome concluded
    cases going.symm.trans concluded

theorem Sound.stop {t : Threads} (sound : Sound w t) {cause : Cause} {s : Stopping}
    (noted : s = .setEvent → cause = .failure → t.service.failed = true) :
    Sound w (t.stop cause s) := by
  cases s with
  | setEvent =>
    refine { sound with stops := .inl rfl, noted := ?_ }
    intro first
    cases before : t.cause? with
    | none => exact noted rfl (by simpa [Threads.stop, before] using first)
    | some earlier => exact sound.noted (by simpa [Threads.stop, before] using first)
  | stopWatch =>
    refine { sound with stops := ?_ }
    rcases sound.stops with stopped | member
    · exact .inl (by simpa [Threads.stop, Controller.stopWatch] using stopped)
    · exact .inr member
  | stopFlushing =>
    unfold Threads.stop
    dsimp only
    split
    · exact { sound with closes := sound.closes.stop }
    · exact sound

theorem Sound.respond {t : Threads} {deed : Aftermath} {rest : List Aftermath} (sound : Sound w t)
    (left : t.thread = .failing (deed :: rest)) (going : t.outcome? = none) :
    Sound w ({ t with thread := .failing rest }.respond deed) := by
  obtain ⟨raised, notes⟩ := sound.notes _ left
  have serves : w.listening = none := sound.serves (.inl raised)
  -- the thread goes on with what is left, and that is in order whatever the deed has noted
  have goesOn {failed : Bool} (notes : Notes failed rest) (left : List Aftermath)
      (failing : Thread.failing rest = .failing left) : t.failure? ≠ none ∧ Notes failed left := by
    cases failing
    exact ⟨raised, notes⟩
  cases deed with
  | report failure => exact { sound with notes := goesOn notes, serves := fun _ => serves }
  | noteFailure =>
    refine { sound with
      notes := goesOn notes
      noted := fun _ => rfl
      raised := fun _ => raised
      serves := fun _ => serves
      concludes := ?_ }
    intro outcome concluded
    cases going.symm.trans concluded
  | stop s =>
    have later : Notes t.service.failed rest := by
      cases s with
      | setEvent => exact notes.2
      | _ => exact notes
    have prepared : Sound w { t with thread := .failing rest } :=
      { sound with notes := goesOn later, serves := fun _ => serves }
    refine prepared.stop ?_
    rintro rfl -
    exact notes.1

theorem Sound.runEnded {t : Threads} (sound : Sound w t) (serves : w.listening = none)
    (outcome : Except Failure Unit) : Sound w (t.runEnded outcome) := by
  unfold Threads.runEnded
  split
  · exact { sound with notes := nofun, serves := fun _ => serves }
  · next failure =>
    split
    · exact { sound with notes := nofun, serves := fun _ => serves }
    · refine { sound with notes := ?_, raised := fun _ => nofun, serves := fun _ => serves }
      rintro _ ⟨⟩
      simp [aftermath, stopping, Notes]

theorem Sound.controllerStep {t : Threads} (sound : Sound w t) (running : t.thread = .running) :
    Sound w (t.controllerStep target w) := by
  have serves : w.listening = none := sound.serves (.inr (.inl (running ▸ nofun)))
  have stepped : Sound w { t with
      controller := t.controller.step target (w.ending = .stop)
      cause? := if (t.controller.step target (w.ending = .stop)).watcher.stopped then
          t.cause?.or (some .other) else t.cause? } := by
    refine { sound with stops := ?_, noted := ?_ }
    · rcases sound.stops with stopped | member
      · exact .inl (Controller.step_stopped target _ stopped)
      · exact .inr member
    · intro first
      refine sound.noted ?_
      dsimp only at first
      split at first
      · cases before : t.cause? <;> simp [before] at first ⊢
        exact first
      · exact first
  unfold Threads.controllerStep
  dsimp only
  split
  · exact stepped.runEnded serves _
  · exact stepped

theorem Sound.controllerTurn {t : Threads} (sound : Sound w t) (going : t.outcome? = none) :
    Sound w (t.controllerTurn target w) := by
  unfold Threads.controllerTurn
  split
  · next running => exact sound.controllerStep running
  · next left => exact sound.respond left going
  · exact sound

theorem Sound.advance {t : Threads} (sound : Sound w t) (turn : Turn) :
    Sound w (t.advance target w turn) := by
  unfold Threads.advance
  split
  · exact sound
  · next ongoing =>
    have going : t.outcome? = none := by simpa using ongoing
    cases turn with
    | main => exact sound.mainTurn going
    | controller => exact sound.controllerTurn going
    | signal number => exact sound.signal going number

theorem Sound.execute {t : Threads} (sound : Sound w t) (turns : List Turn) :
    Sound w (execute target w turns t) := by
  induction turns generalizing t with
  | nil => exact sound
  | cons turn rest ih => exact ih (sound.advance turn)

/-! ## The end -/

variable (target w)

theorem execute_append (first second : List Turn) (t : Threads) :
    execute target w (first ++ second) t = execute target w second (execute target w first t) := by
  induction first generalizing t with
  | nil => rfl
  | cons turn rest ih => exact ih _

theorem execute_of_ended {t : Threads} (ended : t.outcome? ≠ none) (turns : List Turn) :
    execute target w turns t = t := by
  induction turns with
  | nil => rfl
  | cons turn rest ih =>
    have still : t.advance target w turn = t := if_pos (Option.isSome_iff_ne_none.mpr ended)
    rw [execute, still, ih]

theorem mainTurn_of_free {t : Threads} {deed : Deed} {rest : List Deed} (left : t.main = deed :: rest)
    (free : t.controller.watcher.stopped = true ∨ deed ≠ .await) :
    t.mainTurn target w = { t with main := rest }.perform target w deed := by
  unfold mainTurn
  cases deed with
  | await =>
    have stopped : t.controller.watcher.stopped = true := free.resolve_right (absurd rfl)
    simp only [left, stopped, if_true, perform]
  | _ => simp only [left]

/-- A main thread that has nothing to wait for comes to its end by itself. -/
theorem main_ends (t : Threads) (going : t.outcome? = none)
    (free : t.controller.watcher.stopped = true ∨ .await ∉ t.main) :
    let last := execute target w (.replicate (t.main.length + 1) .main) t
    last.outcome? = some (conclude w.listening t.service.failed) ∧
    last.controller.watcher.exporter.unsaid = t.controller.watcher.exporter.unsaid := by
  generalize left : t.main = main at free ⊢
  induction main generalizing t with
  | nil =>
    simp [execute, advance, mainTurn, left, going]
  | cons deed rest ih =>
    have turn := mainTurn_of_free target w left
      (free.imp_right fun absent head => absent (head ▸ List.mem_cons_self))
    have kept := kept_perform target w { t with main := rest } deed
    rw [← turn] at kept
    have first : t.advance target w .main = t.mainTurn target w := by simp [advance, going]
    rw [List.length_cons, List.replicate_succ, execute, first]
    obtain ⟨ended, unsaid⟩ := ih _ (kept.outcome?.trans going) kept.main
      (free.imp kept.stopped fun absent later => absent (List.mem_cons_of_mem deed later))
    exact ⟨by rw [ended, kept.failed], unsaid.trans kept.unsaid⟩

/-- A signal that is handled has set the stop event. -/
theorem signal_stops (number : Nat) (t : Threads) (going : t.outcome? = none) :
    let next := execute target w [.signal number, .main, .main] t
    next.outcome? = none ∧ next.controller.watcher.stopped = true ∧
    next.service.failed = t.service.failed ∧
    next.controller.watcher.exporter.unsaid = t.controller.watcher.exporter.unsaid := by
  simp [execute, advance, mainTurn, going, stopping, perform, stop, onService, Service.signalled,
    Service.say, Exporter.say, Exporter.unsaid]

/-- Turns of the controller alone take it where its steps lead. -/
theorem controller_runs {c last : Controller}
    (leads : Controller.Leads target (w.ending = .stop) c last) (unended : ∀ o, c.place ≠ .ended o)
    (t : Threads) (stands : t.controller = c) (running : t.thread = .running)
    (going : t.outcome? = none) :
    ∃ n cause?, execute target w (.replicate n .controller) t =
      match last.place with
      | .ended outcome => { t with controller := last, cause? := cause? }.runEnded outcome
      | _ => { t with controller := last, cause? := cause? } := by
  induction leads using Relation.ReflTransGen.head_induction_on generalizing t with
  | refl =>
    refine ⟨0, t.cause?, ?_⟩
    rw [← stands] at unended ⊢
    split
    · next ended => exact absurd ended (unended _)
    · rfl
  | @head c next step later ih =>
    have first : t.advance target w .controller = t.controllerStep target w := by
      simp [advance, going, controllerTurn, running]
    subst stands
    let cause? := if next.watcher.stopped then t.cause?.or (some .other) else t.cause?
    cases place : next.place with
    | ended outcome =>
      obtain rfl := Controller.Leads.of_ended place later
      refine ⟨1, cause?, ?_⟩
      rw [List.replicate_one, execute, first, execute, controllerStep]
      simp only [step, place]
      rfl
    | _ =>
      have same : t.controllerStep target w = { t with controller := next, cause? := cause? } := by
        simp only [controllerStep, step, place]
        rfl
      obtain ⟨n, cause?, runs⟩ := ih (by simp [place]) { t with controller := next, cause? := cause? }
        rfl running going
      refine ⟨n + 1, cause?, ?_⟩
      rw [List.replicate_succ, execute, first, same, runs]

/-- What a deed that follows from a failure leaves as it is. -/
theorem respond_frame (t : Threads) (deed : Aftermath) :
    (t.respond deed).thread = t.thread ∧ (t.respond deed).outcome? = t.outcome? ∧
    (t.respond deed).main = t.main ∧
    (t.respond deed).controller.watcher.exporter.unsaid = t.controller.watcher.exporter.unsaid ∧
    (t.service.failed = true ∨ deed = .noteFailure → (t.respond deed).service.failed = true) ∧
    (t.controller.watcher.stopped = true ∨ deed = .stop .setEvent →
      (t.respond deed).controller.watcher.stopped = true) := by
  cases deed with
  | report | noteFailure => simp [respond, onService, Service.say, Exporter.say, Exporter.unsaid]
  | stop s =>
    cases s with
    | setEvent => simp [respond, stop]
    | stopWatch => simp [respond, stop, Controller.stopWatch]
    | stopFlushing =>
      unfold respond stop
      dsimp only
      split <;> simp

/-- Turns of the controller's thread do all that follows from a failure. -/
theorem aftermath_done (left : List Aftermath) (t : Threads) (failing : t.thread = .failing left)
    (going : t.outcome? = none) :
    let last := execute target w (.replicate left.length .controller) t
    last.outcome? = none ∧ last.main = t.main ∧
    last.controller.watcher.exporter.unsaid = t.controller.watcher.exporter.unsaid ∧
    (t.service.failed = true ∨ .noteFailure ∈ left → last.service.failed = true) ∧
    (t.controller.watcher.stopped = true ∨ .stop .setEvent ∈ left →
      last.controller.watcher.stopped = true) := by
  induction left generalizing t with
  | nil => simp [execute, going]
  | cons deed rest ih =>
    have first : t.advance target w .controller =
        { t with thread := .failing rest }.respond deed := by
      simp [advance, going, controllerTurn, failing]
    obtain ⟨thread, outcome?, main, unsaid, failed, stopped⟩ :=
      respond_frame { t with thread := .failing rest } deed
    rw [← first] at thread outcome? main unsaid failed stopped
    obtain ⟨ongoing, main', unsaid', failed', stopped'⟩ := ih _ thread (outcome?.trans going)
    rw [List.length_cons, List.replicate_succ, execute]
    refine ⟨ongoing, main'.trans main, unsaid'.trans unsaid, fun noted => ?_, fun set => ?_⟩
    · rw [List.mem_cons, ← or_assoc] at noted
      exact failed' (noted.imp_left fun noted => failed (noted.imp_right Eq.symm))
    · rw [List.mem_cons, ← or_assoc] at set
      exact stopped' (set.imp_left fun set => stopped (set.imp_right Eq.symm))

end Threads

end ControlPlaneMetrics
