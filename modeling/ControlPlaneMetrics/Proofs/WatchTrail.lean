import ControlPlaneMetrics.Proofs.Delivery

/-!
The calls that a run of the controller leaves behind. Each round lists if no version is known, and
then watches from the version learned last. A stream counts up to the item that ends it, or up to
the item from which a failure escapes. What the API answers and what the streams bring thus decide on
all that is asked for, and on the outcome.
-/
namespace ControlPlaneMetrics

/-- What decides on the next calls of a run. -/
structure Position where
  version : Value
  api : Api
  stopped : Bool

def Watcher.position (w : Watcher) : Position := ⟨w.exporter.version, w.exporter.api, w.stopped⟩

namespace StreamItem

/-- Nothing that comes after the item is seen. -/
def ends : StreamItem → Bool
  | .event v => Event.expires v
  | .raise _ | .stopWatch => true
  | _ => false

/-- The position after an item. A failure that tells of a lost version makes it unknown, as an event
that expires does. -/
def pass (p : Position) : StreamItem → Position
  | .event v => { p with version := Event.learn v p.version }
  | .raise (.api status _) => { p with version := if isGone status then .null else p.version }
  | .raise _ | .stopWatch => p
  | .put ns name answer => { p with api := p.api.put ns name answer }
  | .delete ns name => { p with api := p.api.delete ns name }
  | .stopEvent => { p with stopped := true }

def requests (target : Target) : StreamItem → List Call
  | .event v => Event.requests target v
  | _ => []

/-- The failure that escapes from an item in that position. -/
def failure? (target : Target) (p : Position) : StreamItem → Option Failure
  | .event v => Event.failure? target p.api v
  | .raise failure => if failure.isLapse then none else some failure
  | _ => none

end StreamItem

namespace Stream

/-- The items up to the first that ends the stream. -/
def seen : Stream → Stream
  | [] => []
  | item :: rest => if item.ends then [item] else item :: seen rest

def pass (stream : Stream) (p : Position) : Position := stream.seen.foldl StreamItem.pass p

def requests (target : Target) (stream : Stream) : List Call :=
  stream.seen.flatMap (StreamItem.requests target)

/-- The failure that breaks the stream off, and what is asked for until then. -/
def break? (target : Target) : Stream → Position → Option (List Call × Failure)
  | [], _ => none
  | item :: rest, p =>
    match item.failure? target p with
    | some failure => some (item.requests target, failure)
    | none =>
      if item.ends then none
      else (break? target rest (item.pass p)).map fun (gets, failure) =>
        (item.requests target ++ gets, failure)

theorem pass_of_ends {item : StreamItem} (ends : item.ends = true) (rest : Stream) (p : Position) :
    pass (item :: rest) p = item.pass p := by
  simp [pass, seen, ends]

theorem pass_of_goes_on {item : StreamItem} (goesOn : item.ends = false) (rest : Stream)
    (p : Position) : pass (item :: rest) p = pass rest (item.pass p) := by
  simp [pass, seen, goesOn]

theorem requests_of_ends (target : Target) {item : StreamItem} (ends : item.ends = true)
    (rest : Stream) : requests target (item :: rest) = item.requests target := by
  simp [requests, seen, ends]

theorem requests_of_goes_on (target : Target) {item : StreamItem} (goesOn : item.ends = false)
    (rest : Stream) : requests target (item :: rest) = item.requests target ++ requests target rest := by
  simp [requests, seen, goesOn]

theorem break?_of_failure {target : Target} {p : Position} {item : StreamItem} {failure : Failure}
    (failed : item.failure? target p = some failure) (rest : Stream) :
    break? target (item :: rest) p = some (item.requests target, failure) := by
  rw [break?, failed]

theorem break?_of_ends {target : Target} {p : Position} {item : StreamItem}
    (passes : item.failure? target p = none) (ends : item.ends = true) (rest : Stream) :
    break? target (item :: rest) p = none := by
  rw [break?, passes, if_pos ends]

theorem break?_of_goes_on {target : Target} {p : Position} {item : StreamItem}
    (passes : item.failure? target p = none) (goesOn : item.ends = false) (rest : Stream) :
    break? target (item :: rest) p = (break? target rest (item.pass p)).map fun (gets, failure) =>
      (item.requests target ++ gets, failure) := by
  rw [break?, passes, if_neg (by simp [goesOn])]

end Stream

/-- The calls with which a round begins, and the position in which it watches. -/
inductive Watcher.Opening (target : Target) (p : Position) : List Call → Position → Prop where
  | known : p.version ≠ .null → Watcher.Opening target p [] p
  | listed : p.version = .null → Exporter.listFailure? target p.api = none →
      Exporter.Lists target p.api names version →
      Watcher.Opening target p (.list target.ns target.requestTimeout :: names.map target.request)
        { p with version := version, api := (p.api.list target.ns).2 }

/-- The calls of a run over the streams, and its outcome. -/
inductive Trail (target : Target) :
    Position → List Stream → List Call → Except Failure Unit → Prop where
  /-- The stop event is seen to be set. -/
  | stopped : p.stopped = true → Trail target p streams [] (.ok ())
  /-- The listing is not completed. -/
  | unlisted {failure : Failure} : p.stopped = false → p.version = .null →
      Exporter.listFailure? target p.api = some failure →
      Trail target p streams (.list target.ns target.requestTimeout ::
        (Exporter.synced target p.api).map target.request) (.error failure)
  /-- No stream is left, and so the stop event is set. -/
  | exhausted : p.stopped = false → Watcher.Opening target p opening q →
      Trail target p [] (opening ++ [.watch target.ns q.version target.watchTimeout]) (.ok ())
  /-- A failure escapes from the watch. -/
  | broken {failure : Failure} : p.stopped = false → Watcher.Opening target p opening q →
      stream.break? target q = some (gets, failure) →
      Trail target p (stream :: rest)
        (opening ++ .watch target.ns q.version target.watchTimeout :: gets) (.error failure)
  | round : p.stopped = false → Watcher.Opening target p opening q →
      stream.break? target q = none →
      Trail target (stream.pass q) rest calls outcome →
      Trail target p (stream :: rest)
        (opening ++ .watch target.ns q.version target.watchTimeout ::
          (stream.requests target ++ calls)) outcome

theorem Exporter.Lists.unique {target : Target} {api : Api} {names others : List Value}
    {version other : Value} (lists : Exporter.Lists target api names version)
    (again : Exporter.Lists target api others other) : names = others ∧ version = other := by
  obtain ⟨listing, items, answered, itemized, named, dated⟩ := lists
  obtain ⟨listing', items', answered', itemized', named', dated'⟩ := again
  obtain rfl : listing = listing' := Except.ok.inj (answered.symm.trans answered')
  obtain rfl : items = items' := Except.ok.inj (itemized.symm.trans itemized')
  refine ⟨(List.map_inj_right fun _ _ => Except.ok.inj).mp (named.symm.trans named'), ?_⟩
  exact Except.ok.inj (dated.symm.trans dated')

theorem Watcher.Opening.unique {target : Target} {p q q' : Position} {opening other : List Call}
    (opens : Watcher.Opening target p opening q) (again : Watcher.Opening target p other q') :
    opening = other ∧ q = q' := by
  cases opens with
  | known known =>
    cases again with
    | known => exact ⟨rfl, rfl⟩
    | listed unknown => exact absurd unknown known
  | listed unknown _ lists =>
    cases again with
    | known known => exact absurd unknown known
    | listed _ _ again =>
      obtain ⟨rfl, rfl⟩ := lists.unique again
      exact ⟨rfl, rfl⟩

/-- What is known to be listed is not found to fail. -/
theorem Watcher.Opening.listFailure?_eq_none {target : Target} {p q : Position}
    {opening : List Call} (opens : Watcher.Opening target p opening q)
    (unknown : p.version = .null) : Exporter.listFailure? target p.api = none := by
  cases opens with
  | known known => exact absurd unknown known
  | listed _ passes => exact passes

/-- The position and the streams decide on all calls of a run and on its outcome. -/
theorem Trail.unique {target : Target} {p : Position} {streams : List Stream}
    {calls others : List Call} {outcome other : Except Failure Unit}
    (trail : Trail target p streams calls outcome) (again : Trail target p streams others other) :
    calls = others ∧ outcome = other := by
  induction trail generalizing others other with
  | stopped seen =>
    cases again with
    | stopped => exact ⟨rfl, rfl⟩
    | _ going => rw [seen] at going; cases going
  | unlisted going unknown fails =>
    cases again with
    | stopped seen => rw [going] at seen; cases seen
    | unlisted _ _ fails' =>
      obtain rfl := Option.some.inj (fails.symm.trans fails')
      exact ⟨rfl, rfl⟩
    | _ _ opens => cases fails.symm.trans (opens.listFailure?_eq_none unknown)
  | exhausted going opens =>
    cases again with
    | stopped seen => rw [going] at seen; cases seen
    | unlisted _ unknown fails => cases fails.symm.trans (opens.listFailure?_eq_none unknown)
    | exhausted _ opens' =>
      obtain ⟨rfl, rfl⟩ := opens.unique opens'
      exact ⟨rfl, rfl⟩
  | broken going opens breaks =>
    cases again with
    | stopped seen => rw [going] at seen; cases seen
    | unlisted _ unknown fails => cases fails.symm.trans (opens.listFailure?_eq_none unknown)
    | broken _ opens' breaks' =>
      obtain ⟨rfl, rfl⟩ := opens.unique opens'
      obtain ⟨rfl, rfl⟩ := Prod.mk.inj (Option.some.inj (breaks.symm.trans breaks'))
      exact ⟨rfl, rfl⟩
    | round _ opens' unbroken =>
      obtain ⟨rfl, rfl⟩ := opens.unique opens'
      cases breaks.symm.trans unbroken
  | round going opens unbroken _ ih =>
    cases again with
    | stopped seen => rw [going] at seen; cases seen
    | unlisted _ unknown fails => cases fails.symm.trans (opens.listFailure?_eq_none unknown)
    | broken _ opens' breaks =>
      obtain ⟨rfl, rfl⟩ := opens.unique opens'
      cases breaks.symm.trans unbroken
    | round _ opens' _ later =>
      obtain ⟨rfl, rfl⟩ := opens.unique opens'
      obtain ⟨rfl, rfl⟩ := ih later
      exact ⟨rfl, rfl⟩

/-- What the watcher is, and has asked for, when it has followed a stream. -/
structure Followed (target : Target) (stream : Stream) (w : Watcher) (gets : List Call)
    (outcome : Except Failure Unit) (w' : Watcher) : Prop where
  calls : w'.exporter.calls = w.exporter.calls ++ gets
  broken : ∀ failure, outcome = .error failure → failure.isLapse = false →
    stream.break? target w.position = some (gets, failure)
  whole : (∀ failure, outcome = .error failure → failure.isLapse = true) →
    stream.break? target w.position = none ∧ gets = stream.requests target
  done : outcome = .ok () → w'.position = stream.pass w.position
  lapsed : ∀ failure, outcome = .error failure → failure.isLapse = true →
    { w'.position with version := .null } = stream.pass w.position

/-- An item that does not end the stream comes before the rest. -/
theorem Followed.cons {target : Target} {item : StreamItem} {w next last : Watcher}
    (passes : item.failure? target w.position = none) (goesOn : item.ends = false)
    (made : next.exporter.calls = w.exporter.calls ++ item.requests target)
    (moved : next.position = item.pass w.position)
    (later : Followed target rest next gets outcome last) :
    Followed target (item :: rest) w (item.requests target ++ gets) outcome last where
  calls := by rw [later.calls, made, List.append_assoc]
  broken failure failed escapes := by
    rw [Stream.break?_of_goes_on passes goesOn, ← moved, later.broken failure failed escapes]
    rfl
  whole ends := by
    obtain ⟨unbroken, all⟩ := later.whole ends
    rw [Stream.break?_of_goes_on passes goesOn, ← moved, unbroken,
      Stream.requests_of_goes_on target goesOn, all]
    exact ⟨rfl, rfl⟩
  done done := by rw [later.done done, Stream.pass_of_goes_on goesOn, moved]
  lapsed failure failed lapse := by
    rw [later.lapsed failure failed lapse, Stream.pass_of_goes_on goesOn, moved]

/-- An item that ends the stream is all that counts of it. -/
theorem Followed.last {target : Target} {item : StreamItem} {w w' : Watcher}
    {outcome : Except Failure Unit} (passes : item.failure? target w.position = none)
    (ends : item.ends = true) (rest : Stream)
    (made : w'.exporter.calls = w.exporter.calls ++ item.requests target)
    (done : outcome = .ok () → w'.position = item.pass w.position)
    (lapsed : ∀ failure, outcome = .error failure → failure.isLapse = true ∧
      { w'.position with version := .null } = item.pass w.position) :
    Followed target (item :: rest) w (item.requests target) outcome w' where
  calls := made
  broken failure failed escapes := by
    rw [(lapsed failure failed).1] at escapes
    cases escapes
  whole _ := ⟨Stream.break?_of_ends passes ends rest, (Stream.requests_of_ends target ends rest).symm⟩
  done finished := by rw [Stream.pass_of_ends ends, done finished]
  lapsed failure failed _ := by rw [Stream.pass_of_ends ends, (lapsed failure failed).2]

/-- A failure that escapes from an item is all that comes of it and what follows. -/
theorem Followed.breaks {target : Target} {item : StreamItem} {w w' : Watcher} {failure : Failure}
    (fails : item.failure? target w.position = some failure) (escapes : failure.isLapse = false)
    (rest : Stream) (made : w'.exporter.calls = w.exporter.calls ++ item.requests target) :
    Followed target (item :: rest) w (item.requests target) (.error failure) w' where
  calls := made
  broken
    | _, rfl, _ => Stream.break?_of_failure fails rest
  whole lapse := by
    rw [lapse failure rfl] at escapes
    cases escapes
  done := nofun
  lapsed
    | _, rfl, lapse => by
      rw [escapes] at lapse
      cases lapse

namespace Watcher

@[simp] theorem stopWatch_exporter (w : Watcher) : w.stopWatch.exporter = w.exporter := by
  unfold stopWatch
  split <;> rfl

@[simp] theorem stopWatch_stopped (w : Watcher) : w.stopWatch.stopped = w.stopped := by
  unfold stopWatch
  split <;> rfl

theorem follow_event (target : Target) (v : Value) (rest : Stream) (w : Watcher)
    (later : ∀ next, ∃ gets,
      Followed target rest next gets (follow target rest next).1 (follow target rest next).2) :
    ∃ gets, Followed target (.event v :: rest) w gets (follow target (.event v :: rest) w).1
      (follow target (.event v :: rest) w).2 := by
  obtain ⟨outcome, lines, version, handled, decided, learned⟩ := w.exporter.handleEvent_eq target v
  cases failed : (StreamItem.event v).failure? target w.position with
  | some failure =>
    have fails : Event.failure? target w.exporter.api v = some failure := failed
    obtain rfl : outcome = .error failure := by simpa [fails] using decided
    -- whatever the API answered, a lost version can only be told by the stream itself
    have escapes := Event.isLapse_of_failure? fails
    simp only [follow, handled]
    exact ⟨_, .breaks failed escapes rest (by simp [Exporter.knowing, Exporter.asked,
      StreamItem.requests])⟩
  | none =>
    have passes : Event.failure? target w.exporter.api v = none := failed
    obtain rfl : outcome = .ok (!Event.expires v) := by simpa [passes] using decided
    obtain rfl := learned _ rfl
    let next : Watcher := { w with
      exporter := (w.exporter.asked target (Event.requests target v) lines).knowing
        (Event.learn v w.exporter.version) }
    cases ends : (StreamItem.event v).ends with
    | true =>
      have expires : Event.expires v = true := ends
      have ended : follow target (.event v :: rest) w = (.ok (), next.stopWatch) := by
        simp [follow, handled, expires, next]
      rw [ended]
      refine ⟨_, .last failed ends rest ?_ ?_ (by simp)⟩
      · rw [stopWatch_exporter]
        rfl
      · intro _
        simp [position, next, Exporter.knowing, Exporter.asked, StreamItem.pass]
    | false =>
      have expires : Event.expires v = false := ends
      have goesOn : follow target (.event v :: rest) w = follow target rest next := by
        simp [follow, handled, expires, next]
      obtain ⟨gets, followed⟩ := later next
      rw [goesOn]
      exact ⟨_, followed.cons failed ends rfl rfl⟩

theorem follow_eq (target : Target) (stream : Stream) (w : Watcher) :
    ∃ gets, Followed target stream w gets (follow target stream w).1 (follow target stream w).2 := by
  induction stream generalizing w with
  | nil => exact ⟨[], by simp [follow], nofun, fun _ => ⟨rfl, rfl⟩, fun _ => rfl, nofun⟩
  | cons item rest ih =>
    cases item with
    | event v => exact follow_event target v rest w ih
    | raise failure =>
      have made : w.exporter.calls =
          w.exporter.calls ++ (StreamItem.raise failure).requests target := by
        simp [StreamItem.requests]
      cases lapse : failure.isLapse with
      | false => exact ⟨_, .breaks (by simp [StreamItem.failure?, lapse]) lapse rest made⟩
      | true =>
        refine ⟨_, .last (by simp [StreamItem.failure?, lapse]) rfl rest made nofun ?_⟩
        rintro _ ⟨⟩
        refine ⟨lapse, ?_⟩
        cases failure with
        | api status reason =>
          have gone : isGone status = true := lapse
          simp [follow, StreamItem.pass, position, gone]
        | _ => cases lapse
    | put ns name answer =>
      obtain ⟨gets, later⟩ := ih { w with exporter := { w.exporter with
        api := w.exporter.api.put ns name answer } }
      exact ⟨_, later.cons rfl rfl (by simp [StreamItem.requests]) rfl⟩
    | delete ns name =>
      obtain ⟨gets, later⟩ := ih { w with exporter := { w.exporter with
        api := w.exporter.api.delete ns name } }
      exact ⟨_, later.cons rfl rfl (by simp [StreamItem.requests]) rfl⟩
    | stopWatch =>
      refine ⟨_, .last rfl rfl rest ?_ ?_ (by simp [follow])⟩
      · simp [follow, StreamItem.requests]
      · simp [follow, StreamItem.pass, position]
    | stopEvent =>
      obtain ⟨gets, later⟩ := ih { w with stopped := true }
      exact ⟨_, later.cons rfl rfl (by simp [StreamItem.requests]) rfl⟩

/-- The watcher when it has asked for a stream. -/
def opened (target : Target) (w : Watcher) : Watcher :=
  { w with
    exporter := w.exporter.call (.watch target.ns w.exporter.version target.watchTimeout)
    watching := true }

/-- A watch asks for one stream and follows it. What is not its end is a failure that escapes. -/
theorem watchOnce_eq (target : Target) (stream : Stream) (rest : List Stream) (w : Watcher) :
    ∃ gets, (watchOnce target (stream :: rest) w).2.1.exporter.calls = w.exporter.calls ++
        .watch target.ns w.position.version target.watchTimeout :: gets ∧
      (((watchOnce target (stream :: rest) w).1 = .ok () ∧
          stream.break? target w.position = none ∧ gets = stream.requests target ∧
          (watchOnce target (stream :: rest) w).2.1.position = stream.pass w.position) ∨
        ∃ failure, (watchOnce target (stream :: rest) w).1 = .error failure ∧
          stream.break? target w.position = some (gets, failure)) := by
  obtain ⟨gets, followed⟩ := follow_eq target stream (w.opened target)
  rcases result : follow target stream (w.opened target) with ⟨outcome, last⟩
  rw [result] at followed
  have calls : last.exporter.calls = w.exporter.calls ++
      .watch target.ns w.position.version target.watchTimeout :: gets := by
    rw [followed.calls]
    simp [opened, Exporter.call, position]
  simp only [opened] at result
  refine ⟨gets, ?_⟩
  -- a failure that tells of a lost version is an end of the stream like any other
  cases outcome with
  | ok =>
    obtain ⟨unbroken, all⟩ := followed.whole (by simp)
    simp only [watchOnce, result]
    exact ⟨calls, .inl ⟨trivial, unbroken, all, followed.done rfl⟩⟩
  | error failure =>
    cases lapse : failure.isLapse with
    | true =>
      obtain ⟨unbroken, all⟩ := followed.whole (by rintro _ ⟨⟩; exact lapse)
      cases failure with
      | api status reason =>
        have gone : isGone status = true := lapse
        simp only [watchOnce, result, gone, if_true]
        exact ⟨calls, .inl ⟨trivial, unbroken, all, followed.lapsed _ rfl lapse⟩⟩
      | _ => cases lapse
    | false =>
      have escaped : watchOnce target (stream :: rest) w =
          (.error failure, { last with watching := false }, rest) := by
        cases failure with
        | api status reason =>
          have known : isGone status = false := lapse
          simp [watchOnce, result, known]
        | _ => simp [watchOnce, result]
      rw [escaped]
      exact ⟨calls, .inr ⟨failure, rfl, followed.broken failure rfl lapse⟩⟩

theorem learn_eq (target : Target) (w : Watcher) :
    (∃ opening, (learn target w).1 = .ok () ∧
      (learn target w).2.exporter.calls = w.exporter.calls ++ opening ∧
      Opening target w.position opening (learn target w).2.position) ∨
    (∃ failure, (learn target w).1 = .error failure ∧ w.position.version = .null ∧
      Exporter.listFailure? target w.position.api = some failure ∧
      (learn target w).2.exporter.calls = w.exporter.calls ++
        .list target.ns target.requestTimeout ::
          (Exporter.synced target w.position.api).map target.request) := by
  cases version : w.exporter.version with
  | null =>
    obtain ⟨outcome, lines, learnt, result, fails, _, complete⟩ := w.exporter.sync_eq target
    cases outcome with
    | error failure =>
      refine .inr ⟨failure, ?_, version, (fails failure).mp rfl, ?_⟩
      · simp [learn, version, result]
      · simp [learn, version, result, Exporter.asked, Exporter.knowing, position]
    | ok count =>
      obtain ⟨_, lists⟩ := complete count rfl
      have passes : Exporter.listFailure? target w.position.api = none := by
        refine Option.eq_none_iff_forall_ne_some.mpr fun failure failed => ?_
        cases (fails failure).mpr failed
      refine .inl ⟨.list target.ns target.requestTimeout ::
        (Exporter.synced target w.position.api).map target.request, ?_, ?_, ?_⟩
      · simp [learn, version, result]
      · simp [learn, version, result, Exporter.asked, Exporter.knowing, position]
      · simpa [learn, version, result, Exporter.asked, Exporter.knowing, position] using
          Opening.listed (p := w.position) version passes lists
  | _ =>
    have known : w.position.version ≠ .null := by simp [position, version]
    refine .inl ⟨[], ?_, ?_, ?_⟩
    · simp [learn, version]
    · simp [learn, version]
    · simpa [learn, version] using Opening.known (p := w.position) known

theorem rounds_of_stopped (target : Target) (streams : List Stream) {w : Watcher}
    (stopped : w.stopped = true) : rounds target streams w = (.ok (), w, streams) := by
  rw [rounds, if_pos stopped]

theorem rounds_of_unlisted {target : Target} {w ready : Watcher} {failure : Failure}
    (streams : List Stream) (going : w.stopped = false)
    (learnt : learn target w = (.error failure, ready)) :
    rounds target streams w = (.error failure, ready, streams) := by
  rw [rounds, if_neg (by simp [going]), learnt]

theorem rounds_of_none {target : Target} {w ready : Watcher} (going : w.stopped = false)
    (learnt : learn target w = (.ok (), ready)) : rounds target [] w =
      (.ok (), { ready.opened target with watching := false, stopped := true, exhausted := true }, []) := by
  rw [rounds, if_neg (by simp [going]), learnt]
  rfl

theorem rounds_of_watched {target : Target} {stream : Stream} {w ready last : Watcher}
    (rest : List Stream) (going : w.stopped = false) (learnt : learn target w = (.ok (), ready))
    (watched : watchOnce target [stream] ready = (.ok (), last, left)) :
    rounds target (stream :: rest) w = rounds target rest last := by
  rw [rounds, if_neg (by simp [going]), learnt]
  simp only [watched]

theorem rounds_of_broken {target : Target} {stream : Stream} {w ready last : Watcher}
    {failure : Failure} (rest : List Stream) (going : w.stopped = false)
    (learnt : learn target w = (.ok (), ready))
    (watched : watchOnce target [stream] ready = (.error failure, last, left)) :
    rounds target (stream :: rest) w = (.error failure, last, rest) := by
  rw [rounds, if_neg (by simp [going]), learnt]
  simp only [watched]

/-- The calls made since the watcher was as it is are those of a trail. -/
def LeavesTrail (target : Target) (streams : List Stream) (w : Watcher)
    (result : Except Failure Unit × Watcher × List Stream) : Prop :=
  ∃ calls, result.2.1.exporter.calls = w.exporter.calls ++ calls ∧
    Trail target w.position streams calls result.1

/-- A round that does not get to watch leaves a trail in any case. -/
theorem leavesTrail_of_ready {target : Target} {streams : List Stream} {w : Watcher}
    (ready : ∀ opening next, w.stopped = false → learn target w = (.ok (), next) →
      next.exporter.calls = w.exporter.calls ++ opening →
      Opening target w.position opening next.position →
      LeavesTrail target streams w (rounds target streams w)) :
    LeavesTrail target streams w (rounds target streams w) := by
  cases going : w.stopped with
  | true =>
    rw [rounds_of_stopped target streams going]
    exact ⟨[], by simp, .stopped going⟩
  | false =>
    rcases learnt : learn target w with ⟨outcome, next⟩
    rcases learn_eq target w with
      ⟨opening, done, calls, opens⟩ | ⟨failure, failed, version, unlisted, calls⟩
    · simp only [learnt] at done calls opens
      exact ready opening next going (by rw [learnt, done]) calls opens
    · simp only [learnt] at failed calls
      cases failed
      rw [rounds_of_unlisted streams going learnt]
      exact ⟨_, calls, .unlisted going version unlisted⟩

theorem rounds_trail (target : Target) (streams : List Stream) (w : Watcher) :
    LeavesTrail target streams w (rounds target streams w) := by
  induction streams generalizing w with
  | nil =>
    refine leavesTrail_of_ready fun opening next going learnt calls opens => ?_
    rw [rounds_of_none going learnt]
    refine ⟨_, ?_, .exhausted going opens⟩
    simp [opened, Exporter.call, calls, position]
  | cons stream rest ih =>
    refine leavesTrail_of_ready fun opening next going learnt calls opens => ?_
    rcases watched : watchOnce target [stream] next with ⟨outcome, last, left⟩
    obtain ⟨gets, asked, ⟨done, unbroken, all, passed⟩ | ⟨failure, failed, breaks⟩⟩ :=
      watchOnce_eq target stream [] next
    · simp only [watched] at asked done passed
      cases done
      obtain ⟨later, further, trail⟩ := ih last
      rw [passed] at trail
      rw [rounds_of_watched rest going learnt watched]
      refine ⟨_, ?_, .round going opens unbroken trail⟩
      rw [further, asked, calls, all]
      simp
    · simp only [watched] at asked failed
      cases failed
      rw [rounds_of_broken rest going learnt watched]
      refine ⟨_, ?_, .broken going opens breaks⟩
      rw [asked, calls, List.append_assoc]

/-- From whatever version a run starts, and whatever is listed and streamed: each watch is asked for
with the version learned last, after a listing if and only if none was known, and nothing is asked
for after a failure that escapes or once the stop event is seen to be set. -/
theorem run_leaves_trail (target : Target) (streams : List Stream) (w : Watcher) :
    ∃ calls, (w.run target streams).2.1.exporter.calls = w.exporter.calls ++ calls ∧
      Trail target w.position streams calls (w.run target streams).1 := by
  let started : Watcher := { w with
    exporter := w.exporter.say .info .watcher
      (Text.ofString "Starting controlplanemachineset controller in namespace " ++
        target.ns.display) }
  obtain ⟨calls, made, trail⟩ := rounds_trail target streams started
  refine ⟨calls, ?_⟩
  rcases result : rounds target streams started with ⟨outcome, last, left⟩
  rw [result] at made trail
  simp only [started] at result
  cases outcome with
  | error failure =>
    simp only [run, result]
    exact ⟨made, trail⟩
  | ok =>
    simp only [run, result]
    exact ⟨made, trail⟩

end Watcher

end ControlPlaneMetrics
