import ControlPlaneMetrics.Proofs.ControllerSteps
import ControlPlaneMetrics.Proofs.History

/-!
A session as the single steps that it comes down to. A loop takes the steps of its ticks and
flushes after each, and a watch takes those that its listings and the items of its streams stand
for. Whatever else is done in between leaves the setting, the thread and the metrics as they are.
-/
namespace ControlPlaneMetrics

open Metrics

/-- A step that is taken, and the session in which it is taken. -/
structure Moment where
  session : Session
  step : Step

/-- One operation on the session, which does not come down to others. -/
def Step.Elementary : Step → Prop
  | .loop _ | .watchOnce .. | .runController .. => False
  | _ => True

namespace Session

/-! ## The moments of a step -/

/-- The items of a stream, until one ends it. -/
def momentsOfStream (s : Session) : Stream → List Moment
  | [] => []
  | .event v :: rest =>
    ⟨s, .event v⟩ :: match s.step (.event v) with
      | (.ok (.truth true), next) => next.momentsOfStream rest
      | _ => []
  | .put ns name answer :: rest =>
    ⟨s, .put ns name answer⟩ :: (s.step (.put ns name answer)).2.momentsOfStream rest
  | .delete ns name :: rest =>
    ⟨s, .delete ns name⟩ :: (s.step (.delete ns name)).2.momentsOfStream rest
  | .stopEvent :: rest => s.momentsOfStream rest
  | .raise _ :: _ => []
  | .stopWatch :: _ => []

/-- One watch takes the first stream, if there is one. -/
def momentsOfWatch (s : Session) (w : Watcher) : List Stream → List Moment
  | [] => []
  | stream :: _ => (s.withExporter (w.opened s.setting.target).exporter).momentsOfStream stream

/-- A listing is made where no version is known. -/
def momentsOfLearning (s : Session) (w : Watcher) : List Moment :=
  match w.exporter.version with
  | .null => [⟨s.withExporter w.exporter, .sync⟩]
  | _ => []

/-- The rounds of a controller. -/
def momentsOfRounds (s : Session) : List Stream → Watcher → List Moment
  | [], w => if w.stopped then [] else s.momentsOfLearning w
  | stream :: rest, w =>
    if w.stopped then []
    else s.momentsOfLearning w ++
      match Watcher.learn s.setting.target w with
      | (.error _, _) => []
      | (.ok (), ready) =>
        s.momentsOfWatch ready [stream] ++
          match Watcher.watchOnce s.setting.target [stream] ready with
          | (.ok (), next, _) => s.momentsOfRounds rest next
          | _ => []

/-- The watcher that a watch or a run begins with. -/
def watcher (s : Session) (stopped : Bool) : Watcher := ⟨s.exporter, false, 0, stopped, false⟩

mutual

/-- The single steps that a step comes down to. -/
def momentsOfStep (s : Session) : Step → List Moment
  | .loop ticks => momentsOfTicks s ticks
  | .watchOnce streams stopped => s.momentsOfWatch (s.watcher stopped) streams
  | .runController streams stopped =>
    s.momentsOfRounds streams ((s.watcher stopped).started s.setting.target)
  | step => [⟨s, step⟩]

def moments (s : Session) : List Step → List Moment
  | [] => []
  | first :: rest => momentsOfStep s first ++ moments (s.step first).2 rest

def momentsOfTicks (s : Session) : List (List Step) → List Moment
  | [] => []
  | steps :: rest =>
    let ended := s.runSteps steps
    moments s steps ++
      ⟨ended, .aggregate⟩ :: momentsOfTicks (ended.withExporter ended.exporter.tick) rest

end

/-! ## What happens between them -/

/-- The sessions differ in nothing that a moment is needed for. -/
structure Beside (s t : Session) : Prop where
  setting : t.setting = s.setting
  flushing : t.flushing = s.flushing
  metrics : t.exporter.metrics = s.exporter.metrics

/-- The moments lead from one session to the other. -/
inductive Passes : Session → List Moment → Session → Prop
  | here (s : Session) : Passes s [] s
  | aside {s next t : Session} {moments : List Moment} :
      s.Beside next → Passes next moments t → Passes s moments t
  | step {s t : Session} {step : Step} {moments : List Moment} :
      step.Elementary → Passes (s.step step).2 moments t → Passes s (⟨s, step⟩ :: moments) t

theorem Passes.append {s next t : Session} {first second : List Moment}
    (begun : Passes s first next) (later : Passes next second t) :
    Passes s (first ++ second) t := by
  induction begun with
  | here => exact later
  | aside beside _ ih => exact .aside beside (ih later)
  | step elementary _ ih => exact .step elementary (ih later)

theorem Passes.then {s next t : Session} {moments : List Moment} (begun : Passes s moments next)
    (beside : next.Beside t) : Passes s moments t := by
  have later : Passes next [] t := .aside beside (.here t)
  simpa using begun.append later

/-- The moments before any lead to the session in which it is taken. -/
theorem Passes.before {s t : Session} {first later : List Moment} {m : Moment}
    (passes : Passes s (first ++ m :: later) t) : Passes s first m.session := by
  generalize whole : first ++ m :: later = moments at passes
  induction passes generalizing first with
  | here => simp at whole
  | aside beside _ ih => exact .aside beside (ih whole)
  | step elementary _ ih =>
    cases first with
    | nil =>
      obtain ⟨rfl, -⟩ := List.cons.inj whole
      exact .here _
    | cons =>
      obtain ⟨rfl, rest⟩ := List.cons.inj whole
      exact .step elementary (ih rest)

/-- What is said of a flush by the clock that fails. -/
theorem beside_tick (s : Session) :
    (s.step .aggregate).2.Beside (s.withExporter s.exporter.tick) := by
  rcases flushed : s.exporter.flush with ⟨misuse | done, e⟩ <;>
    refine ⟨rfl, rfl, ?_⟩ <;> simp [step, withExporter, Exporter.tick, flushed, Exporter.say]

@[simp] theorem withExporter_withExporter (s : Session) (e other : Exporter) :
    (s.withExporter e).withExporter other = s.withExporter other := rfl

@[simp] theorem withExporter_setting (s : Session) (e : Exporter) :
    (s.withExporter e).setting = s.setting := rfl

@[simp] theorem withExporter_exporter (s : Session) (e : Exporter) :
    (s.withExporter e).exporter = e := rfl

/-! ## A session passes through its moments -/

/-- An item that the watch handles is a step of the session, and one that ends the watch is none. -/
theorem passes_follow (s : Session) (stream : Stream) (w : Watcher) :
    Passes (s.withExporter w.exporter) ((s.withExporter w.exporter).momentsOfStream stream)
      (s.withExporter (Watcher.follow s.setting.target stream w).2.exporter) := by
  induction stream generalizing w with
  | nil => exact .here _
  | cons item rest ih =>
    cases item with
    | event v =>
      rcases handled : w.exporter.handleEvent s.setting.target v with ⟨outcome, e⟩
      have taken : (s.withExporter w.exporter).step (.event v) =
          (outcome.map .truth, s.withExporter e) := by
        simp [step, replied, handled]
      have ended : Passes (s.withExporter w.exporter) [⟨s.withExporter w.exporter, .event v⟩]
          (s.withExporter e) := by
        refine .step trivial ?_
        rw [taken]
        exact .here _
      rw [momentsOfStream, taken, Watcher.follow]
      rcases outcome with failure | _ | _
      · simp only [handled]
        exact ended
      · simp only [handled, Watcher.stopWatch_exporter]
        exact ended
      · simp only [handled]
        exact ended.append (ih { w with exporter := e })
    | put ns name answer =>
      exact .step trivial (ih { w with exporter := { w.exporter with
        api := w.exporter.api.put ns name answer } })
    | delete ns name =>
      exact .step trivial (ih { w with exporter := { w.exporter with
        api := w.exporter.api.delete ns name } })
    | stopEvent => exact ih { w with stopped := true }
    | raise failure => exact .here _
    | stopWatch =>
      simp only [Watcher.follow, Watcher.stopWatch_exporter]
      exact .here _

/-- What a watch does at its end leaves the metrics as they are. -/
theorem beside_watchOnce (s : Session) (stream : Stream) (rest : List Stream) (w : Watcher) :
    (s.withExporter
        (Watcher.follow s.setting.target stream (w.opened s.setting.target)).2.exporter).Beside
      (s.withExporter (Watcher.watchOnce s.setting.target (stream :: rest) w).2.1.exporter) := by
  refine ⟨rfl, rfl, ?_⟩
  rw [Watcher.watchOnce_follow]
  split
  · next followed =>
    rw [followed]
    rfl
  · next failure last followed =>
    rw [followed]
    cases failure.isLapse <;> rfl

theorem passes_watchOnce (s : Session) (streams : List Stream) (w : Watcher) :
    Passes (s.withExporter w.exporter) (s.momentsOfWatch w streams)
      (s.withExporter (Watcher.watchOnce s.setting.target streams w).2.1.exporter) := by
  have opens : (s.withExporter w.exporter).Beside
      (s.withExporter (w.opened s.setting.target).exporter) := ⟨rfl, rfl, rfl⟩
  cases streams with
  | nil => exact .aside opens (.here _)
  | cons stream rest =>
    have followed := s.passes_follow stream (w.opened s.setting.target)
    exact .then (.aside opens followed) (s.beside_watchOnce stream rest w)

theorem passes_learn (s : Session) (w : Watcher) :
    Passes (s.withExporter w.exporter) (s.momentsOfLearning w)
      (s.withExporter (Watcher.learn s.setting.target w).2.exporter) := by
  cases version : w.exporter.version with
  | null =>
    simp only [momentsOfLearning, Watcher.learn, version]
    refine .step trivial ?_
    rcases listed : w.exporter.sync s.setting.target with ⟨failure | count, e⟩ <;>
      simpa [step, replied, listed] using Passes.here _
  | _ =>
    simp only [momentsOfLearning, Watcher.learn, version]
    exact .here _

theorem passes_rounds (s : Session) (streams : List Stream) (w : Watcher) :
    Passes (s.withExporter w.exporter) (s.momentsOfRounds streams w)
      (s.withExporter (Watcher.rounds s.setting.target streams w).2.1.exporter) := by
  induction streams generalizing w with
  | nil =>
    have learnt := s.passes_learn w
    unfold momentsOfRounds Watcher.rounds
    split
    · exact .here _
    · rcases result : Watcher.learn s.setting.target w with ⟨failure | done, ready⟩ <;>
        rw [result] at learnt
      · exact learnt
      · simpa [momentsOfWatch] using learnt.append (s.passes_watchOnce [] ready)
  | cons stream rest ih =>
    have learnt := s.passes_learn w
    unfold momentsOfRounds Watcher.rounds
    split
    · exact .here _
    · rcases result : Watcher.learn s.setting.target w with ⟨failure | done, ready⟩ <;>
        rw [result] at learnt
      · simpa using learnt
      · have watched := s.passes_watchOnce [stream] ready
        rcases once : Watcher.watchOnce s.setting.target [stream] ready with
          ⟨failure | done, next, left⟩ <;> rw [once] at watched
        · simpa [once] using learnt.append watched
        · simpa [once] using learnt.append (watched.append (ih next))

theorem passes_run (s : Session) (streams : List Stream) (w : Watcher) :
    Passes (s.withExporter w.exporter) (s.momentsOfRounds streams (w.started s.setting.target))
      (s.withExporter (w.run s.setting.target streams).2.1.exporter) := by
  have begins : (s.withExporter w.exporter).Beside
      (s.withExporter (w.started s.setting.target).exporter) := ⟨rfl, rfl, rfl⟩
  have rounds := s.passes_rounds streams (w.started s.setting.target)
  refine .then (.aside begins rounds) ⟨rfl, rfl, ?_⟩
  rw [Watcher.run_eq]
  split
  · next ended =>
    rw [ended]
    rfl
  · rfl

mutual

theorem passes_step (s : Session) : (st : Step) → Passes s (s.momentsOfStep st) (s.step st).2
  | .loop ticks => by
    unfold momentsOfStep step
    exact passes_runTicks s _ ticks
  | .watchOnce streams stopped => by
    unfold momentsOfStep step
    exact s.passes_watchOnce streams (s.watcher stopped)
  | .runController streams stopped => by
    unfold momentsOfStep step
    exact s.passes_run streams (s.watcher stopped)
  | .renew _ | .set _ _ | .stop | .aggregate | .put _ _ _ | .delete _ _ | .scriptListing _
  | .scriptCluster _ | .discover _ | .reconcile _ _ | .newStore | .store | .samples | .sample _ _
  | .exposition | .hold | .held | .writeHeld | .run | .isRunning | .sync | .event _
  | .setVersion _ | .stopController | .request _ _ _ => by
    unfold momentsOfStep
    exact .step trivial (.here _)

theorem passes_runSteps (s : Session) :
    (steps : List Step) → Passes s (s.moments steps) (s.runSteps steps)
  | [] => by
    unfold moments runSteps
    exact .here s
  | first :: rest => by
    unfold moments runSteps
    exact (passes_step s first).append (passes_runSteps (s.step first).2 rest)

theorem passes_runTicks (s : Session) (interval : Value) :
    (ticks : List (List Step)) → Passes s (s.momentsOfTicks ticks) (runTicks interval s ticks).2.2
  | [] => by
    unfold momentsOfTicks runTicks
    have said : s.Beside (s.withExporter s.exporter.flushingStopped) := ⟨rfl, rfl, rfl⟩
    exact .aside said (.here _)
  | steps :: rest => by
    have later := passes_runTicks
      ((s.runSteps steps).withExporter (s.runSteps steps).exporter.tick) interval rest
    unfold momentsOfTicks runTicks
    exact (passes_runSteps s steps).append (.step trivial (.aside (beside_tick _) later))

end

end Session

/-! ## The thread that flushes -/

namespace Moment

/-- A thread is started. -/
def starts (m : Moment) : Bool :=
  match m.step with
  | .run => true
  | _ => false

/-- The thread that was started last is stopped. -/
def stops (m : Moment) : Bool :=
  match m.step with
  | .stop => true
  | _ => false

/-- Another exporter is put in place, whose interval is not refused. -/
def renews (m : Moment) : Bool :=
  match m.step with
  | .renew setting => (checkInterval setting.interval).isOk
  | _ => false

/-- The moments of the exporter that is in place after the moment. -/
def attend (known : List Moment) (m : Moment) : List Moment :=
  if m.renews then [] else known ++ [m]

theorem running_of_renews (m : Moment) (renewed : m.renews = true) :
    (m.session.step m.step).2.flushing ≠ .running := by
  obtain ⟨s, st⟩ := m
  cases st with
  | renew setting =>
    rcases checked : checkInterval setting.interval with failure | done
    · simp [renews, checked, Except.isOk, Except.toBool] at renewed
    · simp [Session.step, Session.renew, checked]
  | _ => cases renewed

theorem running_iff (m : Moment) (elementary : m.step.Elementary) (kept : m.renews = false) :
    (m.session.step m.step).2.flushing = .running ↔
      m.starts = true ∨ (m.session.flushing = .running ∧ m.stops = false) := by
  obtain ⟨s, st⟩ := m
  cases st with
  | loop | watchOnce | runController => exact elementary.elim
  | run => simp [starts, Session.step, Session.startFlushing]
  | stop =>
    cases flushing : s.flushing <;>
      simp [starts, stops, Session.step, Session.stopFlushing, flushing]
  | renew setting =>
    rcases checked : checkInterval setting.interval with failure | done
    · simp [starts, stops, Session.step, Session.renew, checked]
    · simp [renews, checked, Except.isOk, Except.toBool] at kept
  | set key enabled =>
    cases misused : key.misuse? <;>
      simp [starts, stops, Session.step, Exporter.set, Store.set, Except.map, misused,
        Session.withExporter]
  | _ =>
    simp [starts, stops, Session.step, Session.withExporter, Session.withApi, Session.replied]

end Moment

/-- The moments since the exporter in place was made. -/
def presentMoments (moments : List Moment) : List Moment := moments.foldl Moment.attend []

/-- The thread that was started last in these moments has not been stopped. -/
def ThreadAlive (moments : List Moment) : Prop :=
  ∃ before m after, moments = before ++ m :: after ∧ m.starts = true ∧
    ∀ later ∈ after, later.stops = false

theorem not_threadAlive_nil : ¬ThreadAlive [] := by
  rintro ⟨before, m, after, split, -⟩
  simp at split

theorem threadAlive_append_one (known : List Moment) (m : Moment) :
    ThreadAlive (known ++ [m]) ↔ m.starts = true ∨ (ThreadAlive known ∧ m.stops = false) := by
  constructor
  · rintro ⟨before, start, after, split, starts, kept⟩
    rcases List.eq_nil_or_concat after with rfl | ⟨rest, last, rfl⟩
    · obtain ⟨-, same⟩ := List.append_inj' split rfl
      obtain rfl := List.singleton_inj.mp same
      exact .inl starts
    · rw [List.concat_eq_append] at split kept
      rw [← List.cons_append, ← List.append_assoc] at split
      obtain ⟨rfl, same⟩ := List.append_inj' split rfl
      obtain rfl := List.singleton_inj.mp same
      have lives := kept m (by simp)
      refine .inr ⟨⟨before, start, rest, rfl, starts, fun later member => ?_⟩, lives⟩
      exact kept later (by simp [member])
  · rintro (starts | ⟨⟨before, start, after, rfl, starts, kept⟩, lives⟩)
    · exact ⟨known, m, [], rfl, starts, by simp⟩
    · refine ⟨before, start, after ++ [m], by simp, starts, ?_⟩
      simpa [or_imp, forall_and, lives] using kept

namespace Session

/-- If the moments known so far tell whether the thread runs, they do so with those that follow. -/
theorem Passes.running_iff {s t : Session} {moments : List Moment} (passes : Passes s moments t)
    {known : List Moment} (alive : s.flushing = .running ↔ ThreadAlive known) :
    t.flushing = .running ↔ ThreadAlive (moments.foldl Moment.attend known) := by
  induction passes generalizing known with
  | here => exact alive
  | aside beside _ ih => exact ih (by rw [beside.flushing, alive])
  | @step s t st moments elementary _ ih =>
    refine ih ?_
    cases renewed : Moment.renews ⟨s, st⟩ with
    | true =>
      have idle := Moment.running_of_renews ⟨s, st⟩ renewed
      rw [Moment.attend, renewed, if_pos rfl]
      exact iff_of_false idle not_threadAlive_nil
    | false =>
      have taken := Moment.running_iff ⟨s, st⟩ elementary renewed
      rw [Moment.attend, renewed, if_neg Bool.false_ne_true, threadAlive_append_one, taken, alive]

end Session

/-! ## The writes that the store has received -/

namespace Moment

/-- An empty store is put in place of the old one. -/
def replaces (m : Moment) : Bool :=
  match m.step with
  | .newStore => true
  | _ => m.renews

/-- Where the store stays in place, the step is one operation on the exporter that the session has,
or another exporter is refused. -/
theorem single_or_refused (m : Moment) (elementary : m.step.Elementary)
    (kept : m.replaces = false) :
    (m.step.Single ∧ m.step ≠ .newStore) ∨ (m.session.step m.step).2 = m.session := by
  obtain ⟨s, st⟩ := m
  cases st with
  | loop | watchOnce | runController => exact elementary.elim
  | newStore => cases kept
  | renew setting =>
    rcases checked : checkInterval setting.interval with failure | done
    · exact .inr (by simp [Session.step, Session.renew, checked])
    · simp [replaces, renews, checked, Except.isOk, Except.toBool] at kept
  | _ => exact .inl ⟨trivial, by simp⟩

/-- The writes that the store in place has received after the moment. -/
def receive (known : List Write) (m : Moment) : List Write :=
  if m.replaces then [] else known ++ m.session.writes m.step

theorem store_after (m : Moment) (elementary : m.step.Elementary) {known : List Write}
    (made : m.session.exporter.metrics.store = Store.putAll known []) :
    (m.session.step m.step).2.exporter.metrics.store = Store.putAll (m.receive known) [] := by
  obtain ⟨s, st⟩ := m
  cases st with
  | loop | watchOnce | runController => exact elementary.elim
  | renew setting =>
    rcases checked : checkInterval setting.interval with failure | done
    · simp [receive, replaces, renews, Session.step, Session.renew, checked, Session.writes,
        Session.fetched, Except.isOk, Except.toBool]
      exact made
    · simp [receive, replaces, renews, Session.step, Session.renew, checked, Except.isOk,
        Except.toBool]
  | _ => exact s.step_store known _ trivial made

end Moment

/-- The writes that the store in place has received, if the first one was empty. -/
def presentWrites (moments : List Moment) : List Write := moments.foldl Moment.receive []

/-- If the store is made of the writes known so far, it stays made of those that it receives. -/
theorem Session.Passes.store {s t : Session} {moments : List Moment} (passes : Passes s moments t)
    {known : List Write} (made : s.exporter.metrics.store = Store.putAll known []) :
    t.exporter.metrics.store = Store.putAll (moments.foldl Moment.receive known) [] := by
  induction passes generalizing known with
  | here => exact made
  | aside beside _ ih =>
    rw [← beside.metrics] at made
    exact ih made
  | @step s t st moments elementary _ ih => exact ih (Moment.store_after ⟨s, st⟩ elementary made)

end ControlPlaneMetrics
