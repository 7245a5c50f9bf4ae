import ControlPlaneMetrics.Proofs.ControllerSteps
import ControlPlaneMetrics.Proofs.StreamCuts

/-!
A stop that comes between the steps of the controller's run. The run looks at the stop event only at
the top of a round, and the stop acts on a watch only if one is open. So a stop that is done between
the look and the opening of the stream acts on nothing, and the run sees it one stream later.
-/
namespace ControlPlaneMetrics

namespace Exporter

/-- How many streams were asked for. -/
def watches (e : Exporter) : Nat := e.calls.countP Call.isWatch

@[simp] theorem watches_say (severity : Log.Severity) (source : Log.Source) (t : Text)
    (e : Exporter) : (e.say severity source t).watches = e.watches := rfl

@[simp] theorem watches_asked (target : Target) (names : List Value) (lines : List Log.Line)
    (e : Exporter) : (e.asked target (names.map target.request) lines).watches = e.watches := by
  have gets : (names.map target.request).countP Call.isWatch = 0 := by
    simp [List.countP_eq_zero, Target.request, Call.isWatch]
  simp [watches, asked, gets]

@[simp] theorem watches_attempt (target : Target) (name : Value) (e : Exporter) :
    (e.attempt target name).2.watches = e.watches := by
  obtain ⟨lines, attempted⟩ := e.attempt_eq target name
  rw [attempted]
  exact watches_asked target [name] lines e

@[simp] theorem watches_handleEvent (target : Target) (event : Value) (e : Exporter) :
    (e.handleEvent target event).2.watches = e.watches := by
  obtain ⟨_, lines, _, handled, -⟩ := e.handleEvent_eq target event
  rw [handled, Event.requests]
  exact watches_asked target (Event.subject? event).toList lines e

end Exporter

namespace Watcher

@[simp] theorem stopWatch_watching (w : Watcher) : w.stopWatch.watching = w.watching := by
  unfold stopWatch
  split <;> rfl

/-- An item neither opens nor closes a watch. -/
theorem handle_frame (target : Target) (item : StreamItem) (w : Watcher) :
    (handle target item w).2.watching = w.watching ∧
    (handle target item w).2.exporter.watches = w.exporter.watches := by
  cases item with
  | event v =>
    have asked := w.exporter.watches_handleEvent target v
    simp only [handle]
    rcases handled : w.exporter.handleEvent target v with ⟨failure | _ | _, e⟩ <;>
      rw [handled] at asked
    · exact ⟨rfl, asked⟩
    · simpa using asked
    · exact ⟨rfl, asked⟩
  | stopWatch => simp [handle]
  | _ => exact ⟨rfl, rfl⟩

end Watcher

namespace Controller

/-- The stop event was seen to be unset, and the stream that follows from this is not open yet. -/
def Place.committed : Place → Bool
  | .learning | .syncing .. | .opening => true
  | _ => false

def Place.follows : Place → Bool
  | .following _ => true
  | _ => false

def watches (c : Controller) : Nat := c.watcher.exporter.watches

/-! ## What a step does -/

/-- A step on the way to a stream that does not open it yet. -/
structure Approaches (c next : Controller) : Prop where
  watches : next.watches = c.watches
  watching : next.watcher.watching = c.watcher.watching
  place : next.place.committed = true ∨ ∃ failure, next.place = .ended (.error failure)

variable (target : Target) (ends : Bool)

theorem list_approaches (c : Controller) : c.Approaches (c.list target) := by
  have listed : (c.watcher.exporter.call (.list target.ns target.requestTimeout)).watches =
      c.watches := by simp [watches, Exporter.watches, Exporter.call, Call.isWatch]
  unfold list
  split
  · dsimp only
    split
    · exact ⟨listed, rfl, .inr ⟨_, rfl⟩⟩
    · split
      · exact ⟨listed, rfl, .inr ⟨_, rfl⟩⟩
      · exact ⟨listed, rfl, .inl rfl⟩
  · exact ⟨rfl, rfl, .inl rfl⟩

theorem syncNext_approaches (listing : Value) (count : Nat) (left : List Value) (c : Controller) :
    c.Approaches (c.syncNext target listing count left) := by
  unfold syncNext
  split
  · split
    · exact ⟨rfl, rfl, .inr ⟨_, rfl⟩⟩
    · exact ⟨rfl, rfl, .inl rfl⟩
  · split
    · exact ⟨rfl, rfl, .inr ⟨_, rfl⟩⟩
    · next name _ =>
      have asked := c.watcher.exporter.watches_attempt target name
      rcases attempted : c.watcher.exporter.attempt target name with ⟨failure | done, e⟩ <;>
        rw [attempted] at asked
      · exact ⟨asked, rfl, .inr ⟨_, rfl⟩⟩
      · exact ⟨asked, rfl, .inl rfl⟩

/-- The watch is open while its stream is followed, and at no other place. -/
def Attended (c : Controller) : Prop := c.watcher.watching = c.place.follows

theorem Attended.watching {c : Controller} (attended : c.Attended) {place : Place}
    (stands : c.place = place) : c.watcher.watching = place.follows :=
  attended.trans (congrArg Place.follows stands)

theorem openNext_opens (c : Controller) :
    (c.openNext target ends).Attended ∧ (c.openNext target ends).place.committed = false ∧
    (c.openNext target ends).watches = c.watches + 1 := by
  have asked : (c.watcher.opened target).exporter.watches = c.watches + 1 := by
    simp [watches, Exporter.watches, Watcher.opened, Exporter.call, Call.isWatch]
  unfold openNext
  dsimp only
  split
  · exact ⟨rfl, rfl, asked⟩
  · exact ⟨rfl, rfl, asked⟩

theorem followNext_leaves (left : Stream) {c : Controller} (watching : c.watcher.watching = true) :
    (c.followNext target left).Attended ∧ (c.followNext target left).place.committed = false ∧
    (c.followNext target left).watches = c.watches := by
  unfold followNext
  split
  · exact ⟨rfl, rfl, rfl⟩
  · next item rest =>
    obtain ⟨still, asked⟩ := c.watcher.handle_frame target item
    rcases handled : c.watcher.handle target item with ⟨failure | goesOn, w⟩ <;>
      rw [handled] at still asked
    · dsimp only
      split
      · exact ⟨rfl, rfl, asked⟩
      · exact ⟨rfl, rfl, asked⟩
    · dsimp only
      split
      · exact ⟨still.trans watching, rfl, asked⟩
      · exact ⟨rfl, rfl, asked⟩

theorem Approaches.attended {c next : Controller} (approaches : c.Approaches next)
    (closed : c.watcher.watching = false) : next.Attended := by
  have follows : next.place.follows = false := by
    rcases approaches.place with committed | ⟨failure, ended⟩
    · cases place : next.place with
      | following left => simp [place, Place.committed] at committed
      | _ => rfl
    · rw [ended]
      rfl
  rw [Attended, approaches.watching, closed, follows]

theorem step_attended {c : Controller} (attended : c.Attended) : (c.step target ends).Attended := by
  unfold step
  cases place : c.place with
  | starting =>
    have closed : c.watcher.watching = false := attended.watching place
    exact closed
  | round =>
    have closed : c.watcher.watching = false := attended.watching place
    dsimp only
    split
    · exact closed
    · exact closed
  | learning => exact (list_approaches target c).attended (attended.watching place)
  | syncing listing count left =>
    exact (syncNext_approaches target listing count left c).attended (attended.watching place)
  | opening => exact (openNext_opens target ends c).1
  | following left => exact (followNext_leaves target left (attended.watching place)).1
  | ended outcome => exact attended

/-- With the stop event set, a run that is not on its way to a stream does not set out for one. -/
theorem step_of_settled {c : Controller} (attended : c.Attended) (stopped : c.watcher.stopped = true)
    (settled : c.place.committed = false) :
    (c.step target ends).place.committed = false ∧ (c.step target ends).watches = c.watches := by
  unfold step
  cases place : c.place with
  | starting => exact ⟨rfl, rfl⟩
  | round => simp [stopped, Place.committed, watches]
  | following left => exact (followNext_leaves target left (attended.watching place)).2
  | ended outcome => simp [place, Place.committed]
  | learning | syncing listing count left | opening => simp [place, Place.committed] at settled

/-- What has become of the stream that a run was on its way to: it is yet to come, it was asked for,
or a failure has ended the run before. -/
inductive Fate (asked : Nat) (c : Controller) : Prop where
  | due : c.place.committed = true → c.watches = asked → Fate asked c
  | opened : c.place.committed = false → c.watches = asked + 1 → Fate asked c
  | failed (failure : Failure) : c.place = .ended (.error failure) → c.watches = asked → Fate asked c

theorem Approaches.fate {c next : Controller} (approaches : c.Approaches next) :
    Fate c.watches next := by
  rcases approaches.place with committed | ⟨failure, ended⟩
  · exact .due committed approaches.watches
  · exact .failed failure ended approaches.watches

theorem step_of_committed {c : Controller} (committed : c.place.committed = true) :
    Fate c.watches (c.step target ends) := by
  unfold step
  cases place : c.place with
  | learning => exact (list_approaches target c).fate
  | syncing listing count left => exact (syncNext_approaches target listing count left c).fate
  | opening =>
    obtain ⟨_, opened, asked⟩ := openNext_opens target ends c
    exact .opened opened asked
  | starting | round | following left | ended outcome =>
    simp [place, Place.committed] at committed

/-! ## How long it takes -/

/-- The objects of the listing that is answered next. -/
def listed (api : Api) : List Value :=
  match (api.list target.ns).1 with
  | .error _ => []
  | .ok listing => (Exporter.itemsOf listing).toOption.getD []

/-- The most steps that a run still takes when the stop event is set: one for each object of the
listing and each item of the next stream, one at the end of both, and the requests and the look at
the event between and after them. -/
def stepsLeft (c : Controller) : Nat :=
  let stream := (c.streams.headD []).length + 3
  match c.place with
  | .starting => 2
  | .round => 1
  | .learning => (listed target c.watcher.exporter.api).length + 2 + stream
  | .syncing _ _ left => left.length + 1 + stream
  | .opening => stream
  | .following left => if c.cut then 2 else left.length + 2
  | .ended _ => 0

theorem list_stepsLeft {c : Controller} (place : c.place = .learning) :
    (c.list target).stepsLeft target ≤ c.stepsLeft target - 1 := by
  have before : c.stepsLeft target =
      (listed target c.watcher.exporter.api).length + 2 + ((c.streams.headD []).length + 3) := by
    simp [stepsLeft, place]
  rw [before]
  unfold list
  split
  · dsimp only [Exporter.call]
    split
    · exact Nat.zero_le _
    · next listing answered =>
      split
      · exact Nat.zero_le _
      · next items itemized =>
        have all : listed target c.watcher.exporter.api = items := by
          simp [listed, answered, itemized, Except.toOption]
        rw [all]
        simp only [stepsLeft]
        omega
  · simp only [stepsLeft]
    omega

theorem syncNext_stepsLeft {listing : Value} {count : Nat} {left : List Value} {c : Controller}
    (place : c.place = .syncing listing count left) :
    (c.syncNext target listing count left).stepsLeft target ≤ c.stepsLeft target - 1 := by
  have before : c.stepsLeft target = left.length + 1 + ((c.streams.headD []).length + 3) := by
    simp [stepsLeft, place]
  rw [before]
  unfold syncNext
  split
  · split
    · exact Nat.zero_le _
    · simp [stepsLeft]
  · split
    · exact Nat.zero_le _
    · split
      · exact Nat.zero_le _
      · simp only [stepsLeft, List.length_cons]
        omega

theorem openNext_stepsLeft {c : Controller} (place : c.place = .opening) :
    (c.openNext target ends).stepsLeft target ≤ c.stepsLeft target - 1 := by
  unfold openNext
  dsimp only
  cases streams : c.streams with
  | nil => simp [stepsLeft, place, close]
  | cons stream rest => simp [stepsLeft, place, streams]

theorem followNext_stepsLeft {left : Stream} {c : Controller} (place : c.place = .following left) :
    (c.followNext target left).stepsLeft target ≤ c.stepsLeft target - 1 := by
  have before : c.stepsLeft target = if c.cut then 2 else left.length + 2 := by
    simp [stepsLeft, place]
  have closed (d : Controller) : d.close.stepsLeft target ≤ c.stepsLeft target - 1 := by
    have : d.close.stepsLeft target = 1 := rfl
    rw [before, this]
    split <;> omega
  unfold followNext
  split
  · exact closed c
  · split
    · split
      · exact closed _
      · exact Nat.zero_le _
    · split
      · next goes =>
        rw [before]
        simp [stepsLeft, goes.2]
      · exact closed _

/-- With the stop event set, each step brings the end nearer. -/
theorem step_stepsLeft {c : Controller} (stopped : c.watcher.stopped = true) :
    (c.step target ends).stepsLeft target ≤ c.stepsLeft target - 1 := by
  unfold step
  cases place : c.place with
  | starting => simp [stepsLeft, place]
  | round => simp [stepsLeft, place, stopped]
  | learning => exact list_stepsLeft target place
  | syncing listing count left => exact syncNext_stepsLeft target place
  | opening => exact openNext_stepsLeft target ends place
  | following left => exact followNext_stepsLeft target place
  | ended outcome => simp [stepsLeft, place]

theorem ended_of_stepsLeft {c : Controller} (none : c.stepsLeft target = 0) :
    ∃ outcome, c.place = .ended outcome := by
  cases place : c.place with
  | ended outcome => exact ⟨outcome, rfl⟩
  | following left =>
    simp only [stepsLeft, place] at none
    split at none <;> omega
  | _ =>
    simp only [stepsLeft, place] at none
    omega

/-! ## Turns -/

/-- The run takes a step, or one of the two acts of a stop is done. -/
inductive Turn where
  | run
  | setEvent
  | stopWatch
  deriving DecidableEq

def advance (c : Controller) : Turn → Controller
  | .run => c.step target ends
  | .setEvent => { c with watcher.stopped := true }
  | .stopWatch => c.stopWatch

def execute : List Turn → Controller → Controller
  | [], c => c
  | turn :: rest, c => execute rest (c.advance target ends turn)

theorem execute_append (first second : List Turn) (c : Controller) :
    execute target ends (first ++ second) c =
      execute target ends second (execute target ends first c) := by
  induction first generalizing c with
  | nil => rfl
  | cons turn rest ih => exact ih _

theorem advance_attended (turn : Turn) {c : Controller} (attended : c.Attended) :
    (c.advance target ends turn).Attended := by
  cases turn with
  | run => exact step_attended target ends attended
  | setEvent => exact attended
  | stopWatch => exact (c.watcher.stopWatch_watching).trans attended

theorem execute_attended (turns : List Turn) {c : Controller} (attended : c.Attended) :
    (execute target ends turns c).Attended := by
  induction turns generalizing c with
  | nil => exact attended
  | cons turn rest ih => exact ih (advance_attended target ends turn attended)

theorem advance_stopped (turn : Turn) {c : Controller} (stopped : c.watcher.stopped = true) :
    (c.advance target ends turn).watcher.stopped = true := by
  cases turn with
  | run => exact step_stopped target ends stopped
  | setEvent => rfl
  | stopWatch => exact (c.watcher.stopWatch_stopped).trans stopped

theorem execute_stopped (turns : List Turn) {c : Controller} (stopped : c.watcher.stopped = true) :
    (execute target ends turns c).watcher.stopped = true := by
  induction turns generalizing c with
  | nil => exact stopped
  | cons turn rest ih => exact ih (advance_stopped target ends turn stopped)

@[simp] theorem stopWatch_watches (c : Controller) : c.stopWatch.watches = c.watches := by
  simp [watches, stopWatch]

theorem stopWatch_stepsLeft (c : Controller) :
    c.stopWatch.stepsLeft target ≤ c.stepsLeft target := by
  cases place : c.place with
  | following left =>
    simp only [stepsLeft, stopWatch, place]
    split <;> split <;> simp_all
  | _ => simp [stepsLeft, stopWatch, place]

theorem stopWatch_of_committed {c : Controller} (attended : c.Attended)
    (committed : c.place.committed = true) : c.stopWatch = c := by
  have closed : c.watcher.watching = false := by
    cases place : c.place with
    | learning | syncing listing count left | opening => exact attended.watching place
    | starting | round | following left | ended outcome =>
      simp [place, Place.committed] at committed
  simp [stopWatch, Watcher.stopWatch, closed]

/-- A stop cuts off a stream that is followed, and what is left is one item and one look. -/
theorem stopWatch_of_settled {c : Controller} (attended : c.Attended)
    (settled : c.place.committed = false) : c.stopWatch.stepsLeft target ≤ 2 := by
  cases place : c.place with
  | following left =>
    have watching : c.watcher.watching = true := attended.watching place
    simp [stepsLeft, stopWatch, place, watching]
  | starting | round | ended outcome => simp [stepsLeft, stopWatch, place]
  | learning | syncing listing count left | opening => simp [place, Place.committed] at settled

theorem execute_of_settled (turns : List Turn) {c : Controller} (attended : c.Attended)
    (stopped : c.watcher.stopped = true) (settled : c.place.committed = false) :
    (execute target ends turns c).place.committed = false ∧
    (execute target ends turns c).watches = c.watches := by
  induction turns generalizing c with
  | nil => exact ⟨settled, rfl⟩
  | cons turn rest ih =>
    have kept : (c.advance target ends turn).place.committed = false ∧
        (c.advance target ends turn).watches = c.watches := by
      cases turn with
      | run => exact step_of_settled target ends attended stopped settled
      | setEvent => exact ⟨settled, rfl⟩
      | stopWatch => exact ⟨settled, c.stopWatch_watches⟩
    obtain ⟨still, asked⟩ := ih (advance_attended target ends turn attended)
      (advance_stopped target ends turn stopped) kept.1
    exact ⟨still, asked.trans kept.2⟩

theorem execute_of_ended (turns : List Turn) {c : Controller} {outcome : Except Failure Unit}
    (ended : c.place = .ended outcome) :
    (execute target ends turns c).place = .ended outcome ∧
    (execute target ends turns c).watches = c.watches := by
  induction turns generalizing c with
  | nil => exact ⟨ended, rfl⟩
  | cons turn rest ih =>
    have kept : (c.advance target ends turn).place = .ended outcome ∧
        (c.advance target ends turn).watches = c.watches := by
      cases turn with
      | run => simp [advance, step, ended]
      | setEvent => exact ⟨ended, rfl⟩
      | stopWatch => exact ⟨ended, c.stopWatch_watches⟩
    obtain ⟨still, asked⟩ := ih kept.1
    exact ⟨still, asked.trans kept.2⟩

/-- A run that is on its way to a stream when the stop event is set asks for that one and no other. -/
theorem execute_of_committed (turns : List Turn) {c : Controller} (attended : c.Attended)
    (stopped : c.watcher.stopped = true) (committed : c.place.committed = true) :
    Fate c.watches (execute target ends turns c) := by
  induction turns generalizing c with
  | nil => exact .due committed rfl
  | cons turn rest ih =>
    have next_attended := advance_attended target ends turn attended
    have next_stopped := advance_stopped target ends turn stopped
    have fate : Fate c.watches (c.advance target ends turn) := by
      cases turn with
      | run => exact step_of_committed target ends committed
      | setEvent => exact .due committed rfl
      | stopWatch => exact .due committed c.stopWatch_watches
    rw [execute]
    cases fate with
    | due committed same => exact same ▸ ih next_attended next_stopped committed
    | opened settled asked =>
      obtain ⟨still, same⟩ :=
        execute_of_settled target ends rest next_attended next_stopped settled
      exact .opened still (same.trans asked)
    | failed failure ended asked =>
      obtain ⟨still, same⟩ := execute_of_ended target ends rest ended
      exact .failed failure still (same.trans asked)

theorem execute_stepsLeft (turns : List Turn) {c : Controller} (stopped : c.watcher.stopped = true) :
    (execute target ends turns c).stepsLeft target ≤ c.stepsLeft target - turns.count .run := by
  induction turns generalizing c with
  | nil => exact Nat.le_refl _
  | cons turn rest ih =>
    have later := ih (advance_stopped target ends turn stopped)
    rw [execute]
    cases turn with
    | run =>
      have nearer := step_stepsLeft target ends stopped
      simp only [advance, List.count_cons_self] at later ⊢
      omega
    | setEvent => exact later
    | stopWatch =>
      have nearer := stopWatch_stepsLeft target c
      simp only [advance, List.count_cons, beq_iff_eq, reduceCtorEq, if_false] at later ⊢
      omega

theorem execute_ends (turns : List Turn) {c : Controller} (stopped : c.watcher.stopped = true)
    (enough : c.stepsLeft target ≤ turns.count .run) :
    ∃ outcome, (execute target ends turns c).place = .ended outcome := by
  have last := execute_stepsLeft target ends turns stopped
  exact ended_of_stepsLeft target (by omega)

/-- A stop sets the event and, after any turns, stops the watch. Where the run is on its way to a
stream then, the stop of the watch does nothing: that stream is still opened, unless a failure ends
the run before, and no other. Anywhere else, no stream is opened any more, and the run is over after
two steps. -/
theorem late_stop_lets_one_stream_open (target : Target) (ends : Bool) (streams : List Stream)
    {w : Watcher} (closed : w.watching = false) (before between after : List Turn) :
    let due := execute target ends (before ++ .setEvent :: between) ⟨.starting, streams, w, false⟩
    let told := due.stopWatch
    let last := execute target ends after told
    (told.place.committed = false →
      last.watches = told.watches ∧
      (2 ≤ after.count .run → ∃ outcome, last.place = .ended outcome)) ∧
    (told.place.committed = true →
      told = due ∧ last.watches ≤ told.watches + 1 ∧
      (last.place = .ended (.ok ()) → last.watches = told.watches + 1) ∧
      (told.stepsLeft target ≤ after.count .run → ∃ outcome, last.place = .ended outcome)) := by
  intro due told last
  have attended : due.Attended := execute_attended target ends _ closed
  have stopped : due.watcher.stopped = true := by
    simp only [due, execute_append, execute]
    exact execute_stopped target ends between rfl
  have told_attended : told.Attended := advance_attended target ends .stopWatch attended
  have told_stopped : told.watcher.stopped = true :=
    advance_stopped target ends .stopWatch stopped
  refine ⟨fun settled => ?_, fun committed => ?_⟩
  · have few : told.stepsLeft target ≤ 2 := stopWatch_of_settled target attended settled
    obtain ⟨_, asked⟩ := execute_of_settled target ends after told_attended told_stopped settled
    exact ⟨asked, fun steps => execute_ends target ends after told_stopped (Nat.le_trans few steps)⟩
  · have fate := execute_of_committed target ends after told_attended told_stopped committed
    refine ⟨stopWatch_of_committed attended committed, ?_, fun done => ?_, fun steps => ?_⟩
    · cases fate with
      | due _ asked | failed _ _ asked => exact Nat.le_succ_of_le (Nat.le_of_eq asked)
      | opened _ asked => exact Nat.le_of_eq asked
    · cases fate with
      | due committed _ =>
        simp [last, done, Place.committed] at committed
      | opened _ asked => exact asked
      | failed failure ended _ =>
        rw [show (execute target ends after told).place = .ended (.ok ()) from done] at ended
        cases ended
    · exact execute_ends target ends after told_stopped steps

/-- A run over two streams of changes to the machine set `cluster`. -/
def watchingEast : Controller :=
  ⟨.starting, [Watcher.change, Watcher.change],
    ⟨Exporter.east (Text.ofString "Active"), false, 0, false, false⟩, false⟩

/-- A stop that is done during the listing is seen one stream later, and one that is done after the
first item of the stream is seen after the second. -/
theorem late_stop_lets_stream_of_changes_open :
    let early := (execute Target.east false (.replicate 3 .run ++ [.setEvent]) watchingEast).stopWatch
    let last := execute Target.east false (.replicate 8 .run) early
    let late := (execute Target.east false (.replicate 6 .run ++ [.setEvent, .run])
      watchingEast).stopWatch
    let last' := execute Target.east false [.run, .run] late
    early.place.committed = true ∧ early.watches = 0 ∧ last.watches ≤ 1 ∧
    (∃ outcome, last.place = .ended outcome) ∧
    late.place.committed = false ∧ late.watches = 1 ∧ last'.watches = 1 ∧
    ∃ outcome, last'.place = .ended outcome := by
  intro early last late last'
  have committed : early.place.committed = true := by decide +kernel
  have none : early.watches = 0 := by decide +kernel
  have settled : late.place.committed = false := by decide +kernel
  have one : late.watches = 1 := by decide +kernel
  obtain ⟨_, opens⟩ := late_stop_lets_one_stream_open Target.east false
    [Watcher.change, Watcher.change] (w := watchingEast.watcher) rfl (.replicate 3 .run) []
    (.replicate 8 .run)
  obtain ⟨keeps, _⟩ := late_stop_lets_one_stream_open Target.east false
    [Watcher.change, Watcher.change] (w := watchingEast.watcher) rfl (.replicate 6 .run) [.run]
    [.run, .run]
  obtain ⟨_, most, _, ended⟩ := opens committed
  obtain ⟨same, ended'⟩ := keeps settled
  refine ⟨committed, none, ?_, ended (by decide +kernel), settled, one, same.trans one,
    ended' (by decide)⟩
  have bound : last.watches ≤ early.watches + 1 := most
  rwa [none] at bound

/-- After the look at the stop event a whole stop may come, and still a stream is asked for and its
items are gone through. -/
theorem stop_after_look_misses_stream :
    let told := execute Target.east false [.run, .run, .setEvent, .stopWatch] watchingEast
    told.watcher.stopped = true ∧ told.watches = 0 ∧
    (execute Target.east false (.replicate 4 .run) told).watches = 1 ∧
    (execute Target.east false (.replicate 6 .run) told).place.follows = true := by
  decide +kernel

end Controller

end ControlPlaneMetrics
