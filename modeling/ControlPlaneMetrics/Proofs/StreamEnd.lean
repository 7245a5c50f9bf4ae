import ControlPlaneMetrics.Proofs.ControllerSteps
import ControlPlaneMetrics.Proofs.FailureContainment

/-!
How a watch ends, by the end of its stream. The items of a stream are dealt with one after the other,
each once, up to the one that ends it. The version is lost where an event or a failure says that it
is no longer known. Any other failure escapes, and no other end is told of.
-/
namespace ControlPlaneMetrics

/-! ## What a stream brings -/

/-- No object is answered by a request to exit. -/
def Api.Orderly (api : Api) : Prop :=
  ∀ entry ∈ api.objects, ∀ failure, entry.2 = .error failure → failure.isExit = false

namespace Api.Orderly

variable {api : Api}

theorem ordinary (orderly : api.Orderly) (ns name : Value) : api.Ordinary ns name := by
  intro failure failed
  unfold Api.get at failed
  split at failed
  · cases failed
    rfl
  · split at failed
    · next n m _ =>
      cases found : lookup? (n, m) api.objects with
      | none =>
        rw [found] at failed
        cases failed
        rfl
      | some answer =>
        rw [found] at failed
        exact orderly _ (mem_of_lookup? found) failure failed
    · cases failed
      rfl

theorem put (orderly : api.Orderly) {answer : Answer} (ns name : Text)
    (fair : ∀ failure, answer = .error failure → failure.isExit = false) :
    (api.put ns name answer).Orderly := by
  intro entry member failure failed
  rcases mem_write member with rfl | old
  · exact fair failure failed
  · exact orderly entry old failure failed

theorem delete (orderly : api.Orderly) (ns name : Text) : (api.delete ns name).Orderly :=
  fun entry member => orderly entry ((erase_sublist _ _).subset member)

end Api.Orderly

/-- The events can be read as far as they have to be, and no object comes to be answered by a request
to exit. -/
structure Stream.Readable (stream : Stream) : Prop where
  events : ∀ v, .event v ∈ stream → Event.Readable v
  answers : ∀ ns name failure, .put ns name (.error failure) ∈ stream → failure.isExit = false

theorem Stream.Readable.tail {item : StreamItem} {rest : Stream}
    (readable : Stream.Readable (item :: rest)) : Stream.Readable rest where
  events v member := readable.events v (List.mem_cons_of_mem _ member)
  answers ns name failure member := readable.answers ns name failure (List.mem_cons_of_mem _ member)

/-! ## The end -/

theorem Failure.isLapse_iff (failure : Failure) : failure.isLapse = true ↔
    ∃ status reason, failure = .api status reason ∧ isGone status = true := by
  constructor
  · intro lapse
    cases failure with
    | api status reason => exact ⟨status, reason, rfl, lapse⟩
    | _ => cases lapse
  · rintro ⟨status, reason, rfl, gone⟩
    exact gone

inductive StreamEnd where
  /-- The API closes the stream. -/
  | closed
  /-- The watch is stopped from outside. -/
  | cut
  /-- An event says that the version is no longer known. -/
  | expired
  | broken (failure : Failure)

namespace StreamEnd

def outcome : StreamEnd → Except Failure Unit
  | broken failure => .error failure
  | _ => .ok ()

def isLapse : StreamEnd → Bool
  | broken failure => failure.isLapse
  | _ => false

def stops : StreamEnd → Nat
  | cut | expired => 1
  | _ => 0

/-- What the watch over the stream comes to: a lost version is no failure of it. -/
def watched (ending : StreamEnd) : Except Failure Unit :=
  if ending.isLapse then .ok () else ending.outcome

theorem watched_eq_ok_iff (ending : StreamEnd) : ending.watched = .ok () ↔
    ending = .closed ∨ ending = .cut ∨ ending = .expired ∨
      ∃ status reason, ending = .broken (.api status reason) ∧ isGone status = true := by
  cases ending with
  | broken failure =>
    simp only [reduceCtorEq, false_or, broken.injEq, ← Failure.isLapse_iff]
    cases lapse : failure.isLapse <;> simp [watched, isLapse, outcome, lapse]
  | _ => simp [watched, isLapse, outcome]

theorem watched_eq_error_iff (ending : StreamEnd) (failure : Failure) :
    ending.watched = .error failure ↔ ending = .broken failure ∧ failure.isLapse = false := by
  cases ending with
  | broken cause =>
    rw [watched, isLapse, broken.injEq]
    constructor
    · intro escaped
      split at escaped
      · cases escaped
      · next kept =>
        cases escaped
        exact ⟨rfl, by simpa using kept⟩
    · rintro ⟨rfl, kept⟩
      rw [kept]
      rfl
  | _ => simp [watched, isLapse, outcome]

end StreamEnd

namespace Stream

def ending : Stream → StreamEnd
  | [] => .closed
  | .event v :: rest => if Event.expires v then .expired else ending rest
  | .raise failure :: _ => .broken failure
  | .stopWatch :: _ => .cut
  | .put .. :: rest | .delete .. :: rest | .stopEvent :: rest => ending rest

/-- The exporter when an item has come along: an event is handled, a change of the API is made. -/
def apply (target : Target) (e : Exporter) : StreamItem → Exporter
  | .event v => (e.handleEvent target v).2
  | .put ns name answer => { e with api := e.api.put ns name answer }
  | .delete ns name => { e with api := e.api.delete ns name }
  | .raise _ | .stopWatch | .stopEvent => e

/-- The exporter when all that is seen of the stream has come along, each item once and in order. -/
def handled (target : Target) (stream : Stream) (e : Exporter) : Exporter :=
  stream.seen.foldl (apply target) e

theorem ending_of_goes_on {item : StreamItem} (goesOn : item.ends = false) (rest : Stream) :
    ending (item :: rest) = ending rest := by
  cases item with
  | event v => exact if_neg (by simpa [StreamItem.ends] using goesOn)
  | raise | stopWatch => cases goesOn
  | put | delete | stopEvent => rfl

theorem handled_of_goes_on (target : Target) {item : StreamItem} (goesOn : item.ends = false)
    (rest : Stream) (e : Exporter) :
    handled target (item :: rest) e = handled target rest (apply target e item) := by
  simp [handled, seen, goesOn]

theorem handled_of_ends (target : Target) {item : StreamItem} (ends : item.ends = true)
    (rest : Stream) (e : Exporter) : handled target (item :: rest) e = apply target e item := by
  simp [handled, seen, ends]

end Stream

namespace Watcher

variable {target : Target} {stream rest : Stream} {w : Watcher}

/-- An event that can be read asks for its object, and the stream is gone on with unless the version
has expired. -/
theorem handleEvent_of_readable (target : Target) {v : Value} {e : Exporter}
    (readable : Event.Readable v) (orderly : e.api.Orderly) :
    (e.handleEvent target v).1 = .ok (!Event.expires v) ∧
      (e.handleEvent target v).2.api = e.api ∧
      (e.handleEvent target v).2.calls = e.calls ++ Event.requests target v ∧
      (e.handleEvent target v).2.version = Event.learn v e.version := by
  have completed := Exporter.handleEvent_completes (e := e) readable
    fun name _ => orderly.ordinary target.ns name
  obtain ⟨outcome, lines, version, result, _, learned⟩ := e.handleEvent_eq target v
  rw [result] at completed ⊢
  exact ⟨completed, rfl, rfl, learned _ completed⟩

/-- What following a stream comes to, and the watcher then. -/
structure FollowedOut (target : Target) (stream : Stream) (w : Watcher)
    (after : Except Failure Unit × Watcher) : Prop where
  outcome : after.1 = stream.ending.outcome
  exporter : after.2.exporter = stream.handled target w.exporter
  calls : after.2.exporter.calls = w.exporter.calls ++ stream.requests target
  expired : stream.ending = .expired → after.2.exporter.version = .null
  stops : after.2.stops = w.stops + stream.ending.stops

/-- An item that does not end the stream comes first, and then the rest. -/
theorem FollowedOut.cons {item : StreamItem} {next : Watcher}
    {after : Except Failure Unit × Watcher} (later : FollowedOut target rest next after)
    (goesOn : item.ends = false) (applied : next.exporter = Stream.apply target w.exporter item)
    (asked : next.exporter.calls = w.exporter.calls ++ item.requests target)
    (stops : next.stops = w.stops) : FollowedOut target (item :: rest) w after where
  outcome := by rw [later.outcome, Stream.ending_of_goes_on goesOn]
  exporter := by rw [later.exporter, applied, Stream.handled_of_goes_on target goesOn]
  calls := by
    rw [later.calls, asked, Stream.requests_of_goes_on target goesOn, List.append_assoc]
  expired ended := later.expired (Stream.ending_of_goes_on goesOn rest ▸ ended)
  stops := by rw [later.stops, stops, Stream.ending_of_goes_on goesOn]

/-- An event that says that the version has expired is handled, and stops the watch. -/
theorem follow_expired {v : Value} (expires : Event.expires v = true)
    (readable : Event.Readable v) (orderly : w.exporter.api.Orderly) (watching : w.watching = true) :
    FollowedOut target (.event v :: rest) w (follow target (.event v :: rest) w) := by
  obtain ⟨completed, -, asked, dated⟩ :=
    handleEvent_of_readable target readable orderly
  have ends : (StreamItem.event v).ends = true := expires
  have ending : Stream.ending (.event v :: rest) = .expired := if_pos expires
  have ended : follow target (.event v :: rest) w =
      (.ok (), { w with exporter := (w.exporter.handleEvent target v).2 }.stopWatch) := by
    rcases handled : w.exporter.handleEvent target v with ⟨outcome, e⟩
    rw [handled, expires] at completed
    obtain rfl : outcome = .ok false := completed
    simp only [follow, handled]
  rw [ended]
  refine ⟨by rw [ending]; rfl, ?_, ?_, fun _ => ?_, ?_⟩
  · rw [stopWatch_exporter, Stream.handled_of_ends target ends]
    rfl
  · rw [stopWatch_exporter, asked, Stream.requests_of_ends target ends]
    rfl
  · rw [stopWatch_exporter, dated, Event.learn, if_pos expires]
  · rw [ending]
    simp [stopWatch, watching, StreamEnd.stops]

theorem follow_of_readable (target : Target) (readable : stream.Readable)
    (orderly : w.exporter.api.Orderly) (watching : w.watching = true) :
    FollowedOut target stream w (follow target stream w) := by
  induction stream generalizing w with
  | nil => exact ⟨rfl, rfl, (List.append_nil _).symm, by rintro ⟨⟩, rfl⟩
  | cons item rest ih =>
    have unasked : w.exporter.calls = w.exporter.calls ++ [] := (List.append_nil _).symm
    cases item with
    | event v =>
      have this := readable.events v List.mem_cons_self
      cases expires : Event.expires v with
      | true => exact follow_expired expires this orderly watching
      | false =>
        obtain ⟨completed, same, asked, -⟩ :=
          handleEvent_of_readable target this orderly
        let next : Watcher := { w with exporter := (w.exporter.handleEvent target v).2 }
        have goesOn : follow target (.event v :: rest) w = follow target rest next := by
          rcases handled : w.exporter.handleEvent target v with ⟨outcome, e⟩
          rw [handled, expires] at completed
          obtain rfl : outcome = .ok true := completed
          simp only [follow, handled, next]
        rw [goesOn]
        have orderly' : next.exporter.api.Orderly := same ▸ orderly
        exact (ih readable.tail orderly' watching).cons expires rfl asked rfl
    | raise failure => exact ⟨rfl, rfl, unasked, by rintro ⟨⟩, rfl⟩
    | put ns name answer =>
      have fair : ∀ failure, answer = .error failure → failure.isExit = false := by
        rintro failure rfl
        exact readable.answers ns name failure List.mem_cons_self
      let next : Watcher := { w with exporter.api := w.exporter.api.put ns name answer }
      have later := ih readable.tail (w := next) (orderly.put ns name fair) watching
      exact later.cons rfl rfl unasked rfl
    | delete ns name =>
      let next : Watcher := { w with exporter.api := w.exporter.api.delete ns name }
      have later := ih readable.tail (w := next) (orderly.delete ns name) watching
      exact later.cons rfl rfl unasked rfl
    | stopWatch =>
      refine ⟨rfl, stopWatch_exporter w, ?_, by rintro ⟨⟩, ?_⟩
      · rw [Stream.requests_of_ends target rfl]
        simp [follow, StreamItem.requests]
      · simp [follow, stopWatch, watching, Stream.ending, StreamEnd.stops]
    | stopEvent =>
      have later := ih readable.tail (w := { w with stopped := true }) orderly watching
      exact later.cons rfl rfl unasked rfl

/-- What a watch over a stream comes to, and the watcher then. -/
theorem watchOnce_of_readable (target : Target) (readable : stream.Readable)
    (orderly : w.exporter.api.Orderly) (others : List Stream) :
    let after := watchOnce target (stream :: others) w
    let handled := stream.handled target (w.opened target).exporter
    after.1 = stream.ending.watched ∧ after.2.1.watching = false ∧
      after.2.1.exporter = (if stream.ending.isLapse then handled.expire else handled) ∧
      after.2.1.stops = w.stops + stream.ending.stops := by
  intro after handled
  have watched : after = _ := watchOnce_follow target stream others w
  obtain ⟨outcome, exporter, -, -, stops⟩ :=
    follow_of_readable target (w := w.opened target) readable orderly rfl
  rcases followed : follow target stream (w.opened target) with ⟨result, last⟩
  rw [followed] at watched outcome exporter stops
  obtain rfl : result = stream.ending.outcome := outcome
  have same : last.exporter = handled := exporter
  rw [watched]
  cases ended : stream.ending with
  | broken failure =>
    rw [ended] at stops
    have kind : (StreamEnd.broken failure).isLapse = failure.isLapse := rfl
    simp only [StreamEnd.outcome, StreamEnd.watched, kind]
    cases failure.isLapse with
    | true => exact ⟨rfl, rfl, congrArg Exporter.expire same, stops⟩
    | false => exact ⟨rfl, rfl, same, stops⟩
  | _ =>
    rw [ended] at stops
    exact ⟨rfl, rfl, same, stops⟩

/-- For every stream of events that can be read, with changes of the API between them, and every way
in which it can end: a watch comes to an end of its own if the stream is closed or stopped, or the
version is lost, and any other failure escapes as it is. In each case the watch is closed, and what
was seen of the stream has been handled, each event once and in order. A watch is stopped once if the
version has expired, and otherwise only from outside. No version is known if it was lost, and else
the one that the last event left. -/
theorem watch_ends_as_stream_does (target : Target) (stream : Stream) (others : List Stream)
    (w : Watcher) (readable : stream.Readable) (orderly : w.exporter.api.Orderly) :
    let after := watchOnce target (stream :: others) w
    let handled := stream.handled target (w.opened target).exporter
    (after.1 = .ok () ↔ stream.ending = .closed ∨ stream.ending = .cut ∨
      stream.ending = .expired ∨
      ∃ status reason, stream.ending = .broken (.api status reason) ∧ isGone status = true) ∧
    (∀ failure, after.1 = .error failure ↔
      stream.ending = .broken failure ∧ failure.isLapse = false) ∧
    after.2.1.watching = false ∧
    after.2.1.exporter = (if stream.ending.isLapse then handled.expire else handled) ∧
    after.2.1.exporter.calls = w.exporter.calls ++
      .watch target.ns w.exporter.version target.watchTimeout :: stream.requests target ∧
    after.2.1.stops = w.stops + stream.ending.stops ∧
    (stream.ending = .expired ∨ stream.ending.isLapse = true →
      after.2.1.exporter.version = .null) ∧
    (stream.ending ≠ .expired ∧ stream.ending.isLapse = false →
      after.2.1.exporter.version = handled.version) := by
  intro after handled
  obtain ⟨result, closed, exporter, stops⟩ :=
    watchOnce_of_readable target readable orderly others
  obtain ⟨-, same, calls, expired, -⟩ :=
    follow_of_readable target (w := w.opened target) readable orderly rfl
  rw [same] at calls expired
  have asked : handled.calls = w.exporter.calls ++
      .watch target.ns w.exporter.version target.watchTimeout :: stream.requests target := by
    rw [calls]
    simp [opened, Exporter.call]
  refine ⟨?_, fun failure => ?_, closed, exporter, ?_, stops, ?_, ?_⟩
  · rw [result]
    exact stream.ending.watched_eq_ok_iff
  · rw [result]
    exact stream.ending.watched_eq_error_iff failure
  · rw [exporter]
    split <;> exact asked
  · intro lost
    rw [exporter]
    cases lapse : stream.ending.isLapse with
    | true => rfl
    | false =>
      rw [lapse] at lost
      exact expired (lost.resolve_right Bool.false_ne_true)
  · rintro ⟨-, kept⟩
    rw [exporter, kept, if_neg Bool.false_ne_true]

/-- An event that says that the version has expired. -/
def expiry : Value :=
  .object
    [(Text.ofString "type", .text (Text.ofString "ERROR")),
      (Text.ofString "object", .object [(Text.ofString "code", .int 410)])]

/-- An object that is gone, one that is answered by a failure from then on, an expiry, and an event
that comes too late for anything. -/
def expiring : Stream :=
  [.event (Exporter.deletionOf "cluster"),
    .put (Text.ofString "machines") (Text.ofString "cluster")
      (.error (.api (.int 500) (.text (Text.ofString "Internal Server Error")))),
    .event (Exporter.deletionOf "cluster"), .event expiry,
    .event (Exporter.deletionOf "cluster")]

/-- The two events before the expiry have asked for their object, and the one behind it has not. -/
theorem watch_ends_at_expiry :
    let w : Watcher := ⟨Exporter.east (Text.ofString "Active"), false, 0, false, false⟩
    let after := watchOnce Target.east [expiring] w
    expiring.Readable ∧ w.exporter.api.Orderly ∧ expiring.ending = .expired ∧
    after.1 = .ok () ∧ after.2.1.watching = false ∧ after.2.1.stops = 1 ∧
    after.2.1.exporter.calls.length = 3 ∧ after.2.1.exporter.version = .null := by
  intro w after
  have readable : expiring.Readable := by
    constructor
    · intro v member
      simp only [expiring, List.mem_cons, StreamItem.event.injEq, reduceCtorEq, List.not_mem_nil,
        or_false, false_or] at member
      rcases member with rfl | rfl | rfl | rfl
      · exact ⟨rfl, .inr rfl, .inr rfl⟩
      · exact ⟨rfl, .inr rfl, .inr rfl⟩
      · exact ⟨rfl, .inr rfl, .inl rfl⟩
      · exact ⟨rfl, .inr rfl, .inr rfl⟩
    · intro ns name failure member
      simp only [expiring, List.mem_cons, StreamItem.put.injEq, reduceCtorEq, List.not_mem_nil,
        or_false, false_or, Except.error.injEq] at member
      obtain ⟨-, -, rfl⟩ := member
      rfl
  have orderly : w.exporter.api.Orderly := by
    intro entry member failure failed
    obtain rfl := List.mem_singleton.mp member
    cases failed
  have ending : expiring.ending = .expired := rfl
  obtain ⟨returns, -, closed, -, calls, stops, lost, -⟩ :=
    watch_ends_as_stream_does Target.east expiring [] w readable orderly
  refine ⟨readable, orderly, ending, returns.mpr (.inr (.inr (.inl ending))), closed, ?_, ?_,
    lost (.inl ending)⟩
  · rw [stops, ending]
    rfl
  · rw [calls]
    rfl

end Watcher

end ControlPlaneMetrics
