import ControlPlaneMetrics.Proofs.WatchTrail
import Mathlib.Logic.Relation

/-!
The controller's run one step at a time, so that others can come between the steps: the look at
the stop event, the listing, each listed object, the request for a stream, and each item of it.
Left alone, the steps come to what the run in one go comes to.
-/
namespace ControlPlaneMetrics

/-- Where the controller's run stands. -/
inductive Controller.Place where
  | starting
  /-- The stop event is looked at next. -/
  | round
  | learning
  /-- How many objects were listed, and those that have yet to be reconciled. -/
  | syncing (listing : Value) (count : Nat) (left : List Value)
  | opening
  | following (left : Stream)
  | ended (outcome : Except Failure Unit)

structure Controller where
  place : Controller.Place
  streams : List Stream
  watcher : Watcher
  /-- Whether the open watch has been told to stop. -/
  cut : Bool

namespace Watcher

/-- The watcher when its run has begun. -/
def started (target : Target) (w : Watcher) : Watcher :=
  { w with
    exporter := w.exporter.say .info .watcher
      (Text.ofString "Starting controlplanemachineset controller in namespace " ++
        target.ns.display) }

theorem run_eq (target : Target) (streams : List Stream) (w : Watcher) :
    w.run target streams = match rounds target streams (w.started target) with
      | (.ok (), last, left) =>
        (.ok (), { last with
          exporter := last.exporter.say .info .watcher
            (Text.ofString "Controlplanemachineset controller stopped") }, left)
      | failed => failed := rfl

/-- One item of a stream, and whether the stream is gone on with. -/
def handle (target : Target) (item : StreamItem) (w : Watcher) : Except Failure Bool × Watcher :=
  match item with
  | .event v =>
    match w.exporter.handleEvent target v with
    | (.error failure, e) => (.error failure, { w with exporter := e })
    | (.ok true, e) => (.ok true, { w with exporter := e })
    | (.ok false, e) => (.ok false, { w with exporter := e }.stopWatch)
  | .raise failure => (.error failure, w)
  | .put ns name answer =>
    (.ok true, { w with exporter.api := w.exporter.api.put ns name answer })
  | .delete ns name => (.ok true, { w with exporter.api := w.exporter.api.delete ns name })
  | .stopWatch => (.ok false, w.stopWatch)
  | .stopEvent => (.ok true, { w with stopped := true })

theorem follow_handle (target : Target) (item : StreamItem) (rest : Stream) (w : Watcher) :
    follow target (item :: rest) w = match handle target item w with
      | (.error failure, last) => (.error failure, last)
      | (.ok true, next) => follow target rest next
      | (.ok false, last) => (.ok (), last) := by
  cases item with
  | event v =>
    rcases handled : w.exporter.handleEvent target v with ⟨failure | _ | _, e⟩ <;>
      simp only [follow, handle, handled]
  | _ => rfl

/-- The watcher when its watch is closed. -/
def closed (w : Watcher) : Watcher := { w with watching := false }

/-- The watcher when the version that it knows is lost. -/
def expired (w : Watcher) : Watcher := { w with exporter := w.exporter.expire }

theorem watchOnce_follow (target : Target) (stream : Stream) (rest : List Stream) (w : Watcher) :
    watchOnce target (stream :: rest) w = match follow target stream (w.opened target) with
      | (.ok (), last) => (.ok (), last.closed, rest)
      | (.error failure, last) =>
        if failure.isLapse then (.ok (), last.expired.closed, rest)
        else (.error failure, last.closed, rest) := by
  unfold watchOnce
  rcases followed : follow target stream (w.opened target) with ⟨failure | done, last⟩
  · simp only [opened] at followed
    cases failure <;> simp only [followed, Failure.isLapse] <;> rfl
  · simp only [opened] at followed
    simp only [followed, closed]

theorem stopWatch_exhausted (w : Watcher) : w.stopWatch.exhausted = w.exhausted := by
  unfold stopWatch
  split <;> rfl

theorem follow_exhausted (target : Target) (stream : Stream) (w : Watcher) :
    (follow target stream w).2.exhausted = w.exhausted := by
  induction stream generalizing w with
  | nil => rfl
  | cons item rest ih =>
    have handled : (handle target item w).2.exhausted = w.exhausted := by
      cases item with
      | event v =>
        simp only [handle]
        split <;> simp [stopWatch_exhausted]
      | stopWatch => exact stopWatch_exhausted w
      | _ => rfl
    rw [follow_handle]
    rcases result : handle target item w with ⟨failure | _ | _, next⟩ <;> rw [result] at handled
    · exact handled
    · exact handled
    · exact (ih next).trans handled

theorem learn_frame {target : Target} {w ready : Watcher} {outcome : Except Failure Unit}
    (learnt : learn target w = (outcome, ready)) :
    ready.stopped = w.stopped ∧ ready.exhausted = w.exhausted := by
  have frame : (learn target w).2.stopped = w.stopped ∧
      (learn target w).2.exhausted = w.exhausted := by
    unfold learn
    split
    · split <;> exact ⟨rfl, rfl⟩
    · exact ⟨rfl, rfl⟩
  rwa [learnt] at frame

theorem watchOnce_exhausted (target : Target) (stream : Stream) (rest : List Stream) (w : Watcher) :
    (watchOnce target (stream :: rest) w).2.1.exhausted = w.exhausted := by
  have followed := follow_exhausted target stream (w.opened target)
  rw [watchOnce_follow]
  rcases result : follow target stream (w.opened target) with ⟨failure | done, last⟩ <;>
    rw [result] at followed
  · dsimp only
    split <;> exact followed
  · exact followed

/-- Nothing takes back the stop event. -/
theorem handle_stopped (target : Target) (item : StreamItem) {w : Watcher}
    (stopped : w.stopped = true) : (handle target item w).2.stopped = true := by
  cases item with
  | event v =>
    simp only [handle]
    split <;> simp [stopped]
  | stopWatch => simp [handle, stopped]
  | stopEvent => rfl
  | _ => exact stopped

end Watcher

namespace Controller

def fail (failure : Failure) (c : Controller) : Controller :=
  { c with place := .ended (.error failure) }

/-- All objects are asked for, if no version is known. -/
def list (target : Target) (c : Controller) : Controller :=
  match c.watcher.exporter.version with
  | .null =>
    let e := c.watcher.exporter.call (.list target.ns target.requestTimeout)
    let (answer, api) := e.api.list target.ns
    let c := { c with watcher.exporter := { e with api := api } }
    match answer with
    | .error failure => c.fail failure
    | .ok listing =>
      match Exporter.itemsOf listing with
      | .error misuse => c.fail (.misuse misuse)
      | .ok items => { c with place := .syncing listing items.length items }
  | _ => { c with place := .opening }

/-- The next of the listed objects is reconciled, or the version is learned if there is none. -/
def syncNext (target : Target) (listing : Value) (count : Nat) (left : List Value)
    (c : Controller) : Controller :=
  match left with
  | [] =>
    match Exporter.versionOf listing with
    | .error misuse => c.fail (.misuse misuse)
    | .ok version =>
      { c with
        place := .opening
        watcher.exporter := { c.watcher.exporter with version := version }.say .info .watcher
          (Text.ofString "Synced " ++ Text.ofNat count ++
            Text.ofString " controlplanemachinesets in " ++ target.ns.display ++
            Text.ofString " (resourceVersion=" ++ version.display ++ Text.ofString ")") }
  | item :: rest =>
    match itemName item with
    | .error misuse => c.fail (.misuse misuse)
    | .ok name =>
      match c.watcher.exporter.attempt target name with
      | (.error failure, e) => { c with watcher.exporter := e }.fail failure
      | (.ok (), e) =>
        { c with place := .syncing listing count rest, watcher.exporter := e }

/-- The open watch is closed. -/
def close (c : Controller) : Controller := { c with place := .round, watcher := c.watcher.closed }

/-- A stream is asked for. If there is none, the watch is closed, and the stop event is set where
the end of the streams is to be the end of the run. -/
def openNext (target : Target) (ends : Bool) (c : Controller) : Controller :=
  let c := { c with watcher := c.watcher.opened target, cut := false }
  match c.streams with
  | [] => { c with watcher.stopped := c.watcher.stopped || ends, watcher.exhausted := true }.close
  | stream :: rest => { c with place := .following stream, streams := rest }

/-- The next item of the stream is handled. A watch that has been told to stop is closed after it,
and so is one whose failure tells of a lost version. -/
def followNext (target : Target) (left : Stream) (c : Controller) : Controller :=
  match left with
  | [] => c.close
  | item :: rest =>
    match c.watcher.handle target item with
    | (.error failure, w) =>
      if failure.isLapse then { c with watcher := w.expired }.close
      else { c with watcher := w }.close.fail failure
    | (.ok goesOn, w) =>
      if goesOn ∧ c.cut = false then { c with place := .following rest, watcher := w }
      else { c with watcher := w }.close

/-- One step of the run. -/
def step (target : Target) (ends : Bool) (c : Controller) : Controller :=
  match c.place with
  | .starting => { c with place := .round, watcher := c.watcher.started target }
  | .round =>
    if c.watcher.stopped then
      { c with
        place := .ended (.ok ())
        watcher.exporter := c.watcher.exporter.say .info .watcher
          (Text.ofString "Controlplanemachineset controller stopped") }
    else { c with place := .learning }
  | .learning => c.list target
  | .syncing listing count left => c.syncNext target listing count left
  | .opening => c.openNext target ends
  | .following left => c.followNext target left
  | .ended _ => c

/-- The controller is told to stop. The look at its watch and the stop of that are one step. -/
def stopWatch (c : Controller) : Controller :=
  { c with watcher := c.watcher.stopWatch, cut := c.cut || c.watcher.watching }

theorem step_stopped (target : Target) (ends : Bool) {c : Controller}
    (stopped : c.watcher.stopped = true) : (c.step target ends).watcher.stopped = true := by
  unfold step
  split
  case h_2 => simp [stopped]
  case h_3 =>
    unfold list
    split
    · dsimp only
      split
      · exact stopped
      · split <;> exact stopped
    · exact stopped
  case h_4 listing count left =>
    unfold syncNext
    split
    · split <;> exact stopped
    · split
      · exact stopped
      · split <;> exact stopped
  case h_5 =>
    unfold openNext
    dsimp only
    split
    · simp [close, Watcher.opened, Watcher.closed, stopped]
    · exact stopped
  case h_6 left =>
    unfold followNext
    split
    · exact stopped
    · next item rest =>
      have handled := Watcher.handle_stopped target item stopped
      split
      · next result =>
        rw [result] at handled
        split <;> exact handled
      · next result =>
        rw [result] at handled
        split <;> exact handled
  all_goals exact stopped

/-! ## Steps that are left alone -/

/-- Steps that nothing comes between. -/
def Leads (target : Target) (ends : Bool) : Controller → Controller → Prop :=
  Relation.ReflTransGen fun c next => c.step target ends = next

theorem Leads.of_step {target : Target} {ends : Bool} {c last : Controller}
    (later : Leads target ends (c.step target ends) last) : Leads target ends c last :=
  Relation.ReflTransGen.head rfl later

theorem Leads.of_ended {target : Target} {ends : Bool} {c last : Controller}
    {outcome : Except Failure Unit} (ended : c.place = .ended outcome)
    (leads : Leads target ends c last) : last = c := by
  induction leads with
  | refl => rfl
  | tail _ step ih => rw [← step, ih, Controller.step, ended]

/-- The place after what has this outcome. -/
def Place.after (outcome : Except Failure Unit) (next : Place) : Place :=
  match outcome with
  | .ok () => next
  | .error failure => .ended (.error failure)

@[simp] theorem Place.after_ok (next : Place) : after (.ok ()) next = next := rfl

variable (target : Target) (ends : Bool)

theorem leads_reconcileItems (listing : Value) (count : Nat) (streams : List Stream) (cut : Bool)
    (left : List Value) (w : Watcher) :
    Leads target ends ⟨.syncing listing count left, streams, w, cut⟩
      ⟨.after (Exporter.reconcileItems target left w.exporter).1 (.syncing listing count []), streams,
        { w with exporter := (Exporter.reconcileItems target left w.exporter).2 }, cut⟩ := by
  induction left generalizing w with
  | nil => exact .refl
  | cons item rest ih =>
    refine .of_step ?_
    simp only [step, syncNext, Exporter.reconcileItems]
    cases named : itemName item with
    | error misuse => exact .refl
    | ok name =>
      dsimp only
      rcases w.exporter.attempt target name with ⟨failure | done, e⟩
      · exact .refl
      · exact ih { w with exporter := e }

theorem leads_learn (streams : List Stream) (w : Watcher) (cut : Bool) :
    Leads target ends ⟨.learning, streams, w, cut⟩
      ⟨.after (Watcher.learn target w).1 .opening, streams, (Watcher.learn target w).2, cut⟩ := by
  refine .of_step ?_
  simp only [step, list, Watcher.learn]
  cases version : w.exporter.version with
  | null =>
    simp only [Exporter.sync]
    rcases (w.exporter.call _).api.list target.ns with ⟨failure | listing, api⟩
    · exact .refl
    · dsimp only
      cases Exporter.itemsOf listing with
      | error misuse => exact .refl
      | ok items =>
        refine (leads_reconcileItems target ends listing items.length streams cut items _).trans ?_
        dsimp only
        rcases Exporter.reconcileItems target items _ with ⟨failure | done, e⟩
        · exact .refl
        · refine Leads.of_step ?_
          simp only [step, syncNext, Place.after]
          cases Exporter.versionOf listing with
          | error misuse => exact .refl
          | ok version => exact .refl
  | _ => exact .refl

theorem leads_round (streams : List Stream) {w : Watcher} (cut : Bool) (going : w.stopped = false) :
    Leads target ends ⟨.round, streams, w, cut⟩
      ⟨.after (Watcher.learn target w).1 .opening, streams, (Watcher.learn target w).2, cut⟩ := by
  refine .of_step ?_
  simp only [step, going, Bool.false_eq_true, if_false]
  exact leads_learn target ends streams w cut

theorem leads_follow (streams : List Stream) (stream : Stream) (w : Watcher) :
    Leads target ends ⟨.following stream, streams, w, false⟩
      (match Watcher.follow target stream w with
        | (.ok (), last) => ⟨.round, streams, last.closed, false⟩
        | (.error failure, last) =>
          if failure.isLapse then ⟨.round, streams, last.expired.closed, false⟩
          else ⟨.ended (.error failure), streams, last.closed, false⟩) := by
  induction stream generalizing w with
  | nil => exact .of_step .refl
  | cons item rest ih =>
    refine .of_step ?_
    simp only [step, followNext, Watcher.follow_handle]
    rcases w.handle target item with ⟨failure | _ | _, next⟩
    · dsimp only
      split <;> exact .refl
    · exact .refl
    · exact ih next

theorem leads_watchOnce (stream : Stream) (rest : List Stream) (w : Watcher) (cut : Bool) :
    Leads target ends ⟨.opening, stream :: rest, w, cut⟩
      ⟨.after (Watcher.watchOnce target [stream] w).1 .round, rest,
        (Watcher.watchOnce target [stream] w).2.1, false⟩ := by
  refine .of_step ((leads_follow target ends rest stream (w.opened target)).trans ?_)
  rw [Watcher.watchOnce_follow]
  rcases Watcher.follow target stream (w.opened target) with ⟨failure | done, last⟩
  · dsimp only
    split <;> exact .refl
  · exact .refl

/-- The watcher as steps leave it when the run in one go leaves it so: the end of the streams sets the
stop event only where it is to be the end of the run. -/
def left (ends : Bool) (w : Watcher) : Watcher :=
  { w with stopped := w.stopped && (ends || !w.exhausted) }

theorem left_of_fresh {w : Watcher} (fresh : w.exhausted = false) : left ends w = w := by
  cases w
  cases fresh
  simp only [left, Bool.not_false, Bool.or_true, Bool.and_true]

/-- The rounds, up to the look at the stop event with which they end. -/
theorem leads_rounds (streams : List Stream) {w : Watcher} (fresh : w.exhausted = false) :
    let result := Watcher.rounds target streams w
    Leads target ends ⟨.round, streams, w, false⟩
      ⟨.after result.1 .round, result.2.2, left ends result.2.1, false⟩ ∧
    (result.1 = .ok () → result.2.1.stopped = true) := by
  intro result
  induction streams generalizing w with
  | nil =>
    cases going : w.stopped with
    | true =>
      simp only [result, Watcher.rounds_of_stopped target [] going, left_of_fresh ends fresh]
      exact ⟨.refl, fun _ => going⟩
    | false =>
      have learns := leads_round target ends [] false going
      rcases learnt : Watcher.learn target w with ⟨failure | done, ready⟩ <;> rw [learnt] at learns
      · obtain ⟨_, ready_fresh⟩ := Watcher.learn_frame learnt
        simp only [result, Watcher.rounds_of_unlisted [] going learnt,
          left_of_fresh ends (ready_fresh.trans fresh)]
        exact ⟨learns, nofun⟩
      · obtain ⟨ready_going, _⟩ := Watcher.learn_frame learnt
        simp only [result, Watcher.rounds_of_none going learnt]
        refine ⟨learns.trans (Leads.of_step ?_), fun _ => trivial⟩
        simp only [step, openNext, close, left, Watcher.opened, ready_going, going, Place.after_ok,
          Bool.false_or, Bool.true_and, Bool.not_true, Bool.or_false]
        exact .refl
  | cons stream rest ih =>
    cases going : w.stopped with
    | true =>
      simp only [result, Watcher.rounds_of_stopped target _ going, left_of_fresh ends fresh]
      exact ⟨.refl, fun _ => going⟩
    | false =>
      have learns := leads_round target ends (stream :: rest) false going
      rcases learnt : Watcher.learn target w with ⟨failure | done, ready⟩ <;> rw [learnt] at learns
      · obtain ⟨_, ready_fresh⟩ := Watcher.learn_frame learnt
        simp only [result, Watcher.rounds_of_unlisted _ going learnt,
          left_of_fresh ends (ready_fresh.trans fresh)]
        exact ⟨learns, nofun⟩
      · obtain ⟨_, ready_fresh⟩ := Watcher.learn_frame learnt
        have watches := leads_watchOnce target ends stream rest ready false
        have kept := Watcher.watchOnce_exhausted target stream [] ready
        rcases watched : Watcher.watchOnce target [stream] ready with ⟨failure | done, last, none⟩ <;>
          rw [watched] at watches <;> rw [watched, ready_fresh, fresh] at kept
        · simp only [result, Watcher.rounds_of_broken rest going learnt watched,
            left_of_fresh ends kept]
          exact ⟨learns.trans watches, nofun⟩
        · obtain ⟨later, ends⟩ := ih kept
          simp only [result, Watcher.rounds_of_watched rest going learnt watched]
          exact ⟨learns.trans (watches.trans later), ends⟩

/-- The steps up to the end of the rounds. -/
theorem leads_started (streams : List Stream) {w : Watcher} (fresh : w.exhausted = false) :
    let result := Watcher.rounds target streams (w.started target)
    Leads target ends ⟨.starting, streams, w, false⟩
      ⟨.after result.1 .round, result.2.2, left ends result.2.1, false⟩ :=
  .of_step (leads_rounds target ends streams (w := w.started target) fresh).1

/-- Left alone, the steps come to what the run in one go comes to. -/
theorem leads_run (streams : List Stream) {w : Watcher} (fresh : w.exhausted = false) :
    Leads target true ⟨.starting, streams, w, false⟩
      ⟨.ended (w.run target streams).1, (w.run target streams).2.2, (w.run target streams).2.1,
        false⟩ := by
  refine (leads_started target true streams fresh).trans ?_
  obtain ⟨_, ends⟩ := leads_rounds target true streams (w := w.started target) fresh
  rw [Watcher.run_eq]
  rcases result : Watcher.rounds target streams (w.started target) with ⟨failure | ⟨⟩, last, rest⟩ <;>
    rw [result] at ends
  · simp only [left, Bool.true_or, Bool.and_true]
    exact .refl
  · have stopped : last.stopped = true := ends rfl
    refine Leads.of_step ?_
    simp only [step, left, stopped, Bool.true_or, Bool.and_true, if_true]
    exact .refl

end Controller

end ControlPlaneMetrics
