import ControlPlaneMetrics.Proofs.WatchTrail

/-!
Where the API closes a stream does not show. A watch that ends is asked for again from the version
learned last, and nothing else of it is kept; so the items of several streams are dealt with as if
one stream had brought them all.
-/
namespace ControlPlaneMetrics

open Metrics

def Call.isWatch : Call → Bool
  | .watch .. => true
  | _ => false

namespace Exporter

/-! ## Nothing depends on the watches that were asked for -/

/-- The exporter as if it had never asked for a watch. -/
def unwatched (e : Exporter) : Exporter := { e with calls := e.calls.filter fun c => !c.isWatch }

@[simp] theorem unwatched_api (e : Exporter) : e.unwatched.api = e.api := rfl

@[simp] theorem unwatched_say (severity : Log.Severity) (source : Log.Source) (t : Text)
    (e : Exporter) : (e.say severity source t).unwatched = e.unwatched.say severity source t := rfl

@[simp] theorem unwatched_get (ns name timeout : Value) (e : Exporter) :
    (e.call (.get ns name timeout)).unwatched = e.unwatched.call (.get ns name timeout) := by
  simp [unwatched, call, Call.isWatch]

@[simp] theorem unwatched_watch (ns version timeout : Value) (e : Exporter) :
    (e.call (.watch ns version timeout)).unwatched = e.unwatched := by
  simp [unwatched, call, Call.isWatch]

theorem record_unwatched (target : Target) (ns name : Value) (o : Observation) (e : Exporter) :
    record target ns name o e.unwatched = (record target ns name o e).map id unwatched := by
  unfold record
  cases written : Store.set (.typed target.clusterId o.instanceType) (.bool o.enabled)
    e.metrics.store <;> simp [set, say, written, Except.map, unwatched]

theorem reconcile_unwatched (target : Target) (ns name : Value) (e : Exporter) :
    e.unwatched.reconcile target ns name = (e.reconcile target ns name).map id unwatched := by
  unfold reconcile
  simp only [← unwatched_say, ← unwatched_get]
  generalize (e.say .debug .reconciler _).call _ = asked
  simp only [unwatched_api]
  split
  · split <;> rfl
  · rfl
  · split
    · rfl
    · exact record_unwatched ..

theorem attempt_unwatched (target : Target) (name : Value) (e : Exporter) :
    e.unwatched.attempt target name = (e.attempt target name).map id unwatched := by
  unfold attempt
  rw [reconcile_unwatched]
  rcases e.reconcile target target.ns name with ⟨failure | result, after⟩
  · cases exits : failure.isExit <;> simp [exits]
  · rfl

theorem handleErrorEvent_unwatched (object : Value) (e : Exporter) :
    handleErrorEvent object e.unwatched = (handleErrorEvent object e).map id unwatched := by
  cases object with
  | object members =>
    unfold handleErrorEvent
    dsimp only
    split <;> rfl
  | _ => rfl

theorem handleObjectEvent_unwatched (target : Target) (kind object : Value) (e : Exporter) :
    handleObjectEvent target kind object e.unwatched =
      (handleObjectEvent target kind object e).map id unwatched := by
  unfold handleObjectEvent
  split
  · rfl
  · next members _ =>
    let name := (lookup? (Text.ofString "name") members).getD .null
    let version := (lookup? (Text.ofString "resourceVersion") members).getD e.version
    have attempted := attempt_unwatched target name ((e.knowing version).say .debug .watcher
      (Text.ofString "Watch event " ++ kind.display ++ Text.ofString " for " ++
        place target.ns name))
    simp only [unwatched, knowing, say, name, version] at attempted
    simp only [unwatched, say]
    split
    · rw [attempted]
      rcases attempt target name _ with ⟨failure | done, after⟩ <;> rfl
    · rfl
  · rfl

theorem handleEvent_unwatched (target : Target) (v : Value) (e : Exporter) :
    e.unwatched.handleEvent target v = (e.handleEvent target v).map id unwatched := by
  cases v with
  | object members =>
    unfold handleEvent
    dsimp only
    split
    · exact handleErrorEvent_unwatched _ e
    · exact handleObjectEvent_unwatched target _ _ e
  | _ => rfl

end Exporter

/-! ## Following one stream -/

/-- Two watchers that differ at most in the watches that they have asked for. -/
def Watcher.Alike (w w' : Watcher) : Prop := w.exporter.unwatched = w'.exporter.unwatched

namespace StreamItem

/-- An event that takes no version away, or a change to the API. -/
def Steady : StreamItem → Prop
  | .event v => Event.expires v = false ∧ Event.version? v ≠ some .null
  | .put .. | .delete .. => True
  | _ => False

theorem Steady.goesOn {item : StreamItem} (steady : item.Steady) : item.ends = false := by
  cases item with
  | event v => exact steady.1
  | put | delete => rfl
  | _ => cases steady

theorem Steady.pass {item : StreamItem} (steady : item.Steady) {p : Position}
    (known : p.version ≠ .null) :
    (item.pass p).version ≠ .null ∧ (item.pass p).stopped = p.stopped := by
  cases item with
  | event v =>
    obtain ⟨kept, dated⟩ := steady
    refine ⟨?_, rfl⟩
    show Event.learn v p.version ≠ .null
    unfold Event.learn
    cases error : Event.isError v with
    | true => simpa [kept] using known
    | false =>
      cases version : Event.version? v with
      | none => simpa [kept] using known
      | some version => simpa [kept, version] using dated
  | put | delete => exact ⟨known, rfl⟩
  | _ => cases steady

end StreamItem

/-- Items none of which ends a stream or takes the version away. -/
def Stream.Steady (stream : Stream) : Prop := ∀ item ∈ stream, item.Steady

theorem Stream.Steady.pass {stream : Stream} (steady : stream.Steady) {p : Position}
    (known : p.version ≠ .null) :
    (stream.pass p).version ≠ .null ∧ (stream.pass p).stopped = p.stopped := by
  induction stream generalizing p with
  | nil => exact ⟨known, rfl⟩
  | cons item rest ih =>
    obtain ⟨first, later⟩ := List.forall_mem_cons.mp steady
    obtain ⟨stays, going⟩ := first.pass known
    obtain ⟨last, same⟩ := ih later stays
    rw [pass_of_goes_on first.goesOn]
    exact ⟨last, same.trans going⟩

/-- A version is known, or the listing that is answered next has one. -/
def Position.Datable (target : Target) (p : Position) : Prop :=
  p.version ≠ .null ∨
    ∀ listing, (p.api.list target.ns).1 = .ok listing → Exporter.versionOf listing ≠ .ok .null

namespace Watcher

variable {target : Target}

/-- A steady item comes first, and then the rest unless it fails. -/
theorem follow_cons {item : StreamItem} (steady : item.Steady) (rest : Stream) (w : Watcher) :
    follow target (item :: rest) w = match follow target [item] w with
      | (.ok (), next) => follow target rest next
      | (.error failure, last) => (.error failure, last) := by
  cases item with
  | event v =>
    rcases handled : w.exporter.handleEvent target v with ⟨failure | go, e⟩
    · simp only [follow, handled]
    · obtain ⟨_, rfl⟩ := Exporter.handleEvent_ok (congrArg Prod.fst handled)
      simp only [follow, handled, steady.1, Bool.not_false]
  | put | delete => rfl
  | _ => cases steady

theorem follow_append {first : Stream} (steady : first.Steady) (rest : Stream) (w : Watcher) :
    follow target (first ++ rest) w = match follow target first w with
      | (.ok (), next) => follow target rest next
      | (.error failure, last) => (.error failure, last) := by
  induction first generalizing w with
  | nil => rfl
  | cons item first ih =>
    obtain ⟨here, later⟩ := List.forall_mem_cons.mp steady
    rw [List.cons_append, follow_cons here, follow_cons here first]
    rcases follow target [item] w with ⟨failure | done, next⟩
    · rfl
    · exact ih later next

theorem Alike.withApi {w w' : Watcher} (alike : Alike w w') (change : Api → Api) :
    Alike { w with exporter := { w.exporter with api := change w.exporter.api } }
      { w' with exporter := { w'.exporter with api := change w'.exporter.api } } := by
  have changed (e : Exporter) : ({ e with api := change e.api } : Exporter).unwatched =
      { e.unwatched with api := change e.unwatched.api } := rfl
  rw [Alike, changed, changed, show w.exporter.unwatched = w'.exporter.unwatched from alike]

variable (target) in
theorem Alike.follow_item {item : StreamItem} (steady : item.Steady) {w w' : Watcher}
    (alike : Alike w w') :
    (follow target [item] w).1 = (follow target [item] w').1 ∧
    Alike (follow target [item] w).2 (follow target [item] w').2 := by
  cases item with
  | event v =>
    have first := w.exporter.handleEvent_unwatched target v
    have second := w'.exporter.handleEvent_unwatched target v
    rw [show w.exporter.unwatched = w'.exporter.unwatched from alike, second] at first
    rcases handled : w.exporter.handleEvent target v with ⟨outcome, e⟩
    rcases handled' : w'.exporter.handleEvent target v with ⟨outcome', e'⟩
    rw [handled, handled'] at first
    obtain ⟨rfl, same⟩ := Prod.mk.inj first
    simp only [follow, handled, handled']
    rcases outcome' with failure | _ | _
    · exact ⟨rfl, same.symm⟩
    · exact ⟨rfl, by simpa [Alike] using same.symm⟩
    · exact ⟨rfl, same.symm⟩
  | put ns name answer => exact ⟨rfl, alike.withApi (·.put ns name answer)⟩
  | delete ns name => exact ⟨rfl, alike.withApi (·.delete ns name)⟩
  | _ => cases steady

variable (target) in
/-- A stream is followed in the same way, whatever watches were asked for before. -/
theorem Alike.follow {stream : Stream} (steady : stream.Steady) {w w' : Watcher}
    (alike : Alike w w') :
    (follow target stream w).1 = (follow target stream w').1 ∧
    Alike (Watcher.follow target stream w).2 (Watcher.follow target stream w').2 := by
  induction stream generalizing w w' with
  | nil => exact ⟨rfl, alike⟩
  | cons item rest ih =>
    obtain ⟨here, later⟩ := List.forall_mem_cons.mp steady
    obtain ⟨outcome, next⟩ := alike.follow_item target here
    rw [follow_cons here rest w, follow_cons here rest w']
    rcases first : Watcher.follow target [item] w with ⟨result, last⟩
    rcases second : Watcher.follow target [item] w' with ⟨result', last'⟩
    rw [first, second] at outcome next
    obtain rfl : result = result' := outcome
    rcases result with failure | done
    · exact ⟨rfl, next⟩
    · exact ih later next

/-! ## Following one stream after the other -/

theorem learn_of_known {w : Watcher} (known : w.exporter.version ≠ .null) :
    learn target w = (.ok (), w) := by
  unfold learn
  split
  · next unknown => exact absurd unknown known
  · rfl

variable (target) in
/-- With a version known, a steady stream fails only as its events do, and is watched to its end
otherwise. -/
theorem watchOnce_of_steady {stream : Stream} (steady : stream.Steady) {w : Watcher}
    (known : w.exporter.version ≠ .null) :
    watchOnce target [stream] w = ((follow target stream (w.opened target)).1,
      { (follow target stream (w.opened target)).2 with watching := false }, []) := by
  obtain ⟨gets, followed⟩ := follow_eq target stream (w.opened target)
  obtain ⟨stays, _⟩ := steady.pass (p := (w.opened target).position) known
  rcases result : follow target stream (w.opened target) with ⟨failure | done, last⟩
  · rw [result] at followed
    have escapes : failure.isLapse = false := by
      cases lapse : failure.isLapse with
      | false => rfl
      | true =>
        -- the failure would have to take away the version that the stream keeps
        have passed := followed.lapsed failure rfl lapse
        rw [← passed] at stays
        exact absurd rfl stays
    simp only [opened] at result
    cases failure with
    | api status reason =>
      have stands : isGone status = false := escapes
      simp [watchOnce, result, stands]
    | _ => simp [watchOnce, result]
  · simp only [opened] at result
    simp [watchOnce, result]

/-- The next round finds a version known and nothing stopped. -/
theorem ready_of_steady {stream : Stream} (steady : stream.Steady) {w last : Watcher}
    (known : w.exporter.version ≠ .null)
    (followed : follow target stream (w.opened target) = (.ok (), last)) :
    last.exporter.version ≠ .null ∧ last.stopped = w.stopped := by
  obtain ⟨gets, trace⟩ := follow_eq target stream (w.opened target)
  rw [followed] at trace
  have passed := trace.done rfl
  have stays := steady.pass (p := (w.opened target).position) known
  rw [← passed] at stays
  exact stays

variable (target) in
/-- Rounds over steady streams come to what one stream of all their items comes to. -/
theorem rounds_of_steady (streams : List Stream) (steady : Stream.Steady streams.flatten)
    {w : Watcher} (known : w.exporter.version ≠ .null) (going : w.stopped = false) :
    (rounds target streams w).1 = (follow target streams.flatten w).1 ∧
    Alike (rounds target streams w).2.1 (follow target streams.flatten w).2 := by
  induction streams generalizing w with
  | nil =>
    rw [rounds_of_none going (learn_of_known known)]
    exact ⟨rfl, by simp [Alike, opened, follow]⟩
  | cons stream rest ih =>
    rw [List.flatten_cons] at steady
    have here : stream.Steady := fun item member => steady item (List.mem_append_left _ member)
    have later : Stream.Steady rest.flatten :=
      fun item member => steady item (List.mem_append_right _ member)
    have alike : Alike w (w.opened target) := by simp [Alike, opened]
    obtain ⟨outcome, followed⟩ := alike.follow target here
    have watched := watchOnce_of_steady target here known
    rw [List.flatten_cons, follow_append here]
    rcases first : Watcher.follow target stream w with ⟨result, next⟩
    rcases second : Watcher.follow target stream (w.opened target) with ⟨result', last⟩
    rw [first, second] at outcome followed
    rw [second] at watched
    obtain rfl : result = result' := outcome
    rcases result with failure | done
    · rw [rounds_of_broken rest going (learn_of_known known) watched]
      exact ⟨rfl, followed.symm⟩
    · rw [rounds_of_watched rest going (learn_of_known known) watched]
      obtain ⟨stays, still⟩ := ready_of_steady here known second
      obtain ⟨ended, trail⟩ := ih later (w := { last with watching := false }) stays
        (still.trans going)
      -- the closed watch is the one difference to the watcher that goes on with the items
      have apart : Alike next { last with watching := false } := followed
      obtain ⟨outcome, rejoined⟩ := apart.follow target later
      exact ⟨ended.trans outcome.symm, trail.trans rejoined.symm⟩

/-- A listing that brings a version is all that a first round adds. -/
theorem rounds_of_learnt {w ready : Watcher} (going : w.stopped = false)
    (learnt : learn target w = (.ok (), ready)) (streams : List Stream)
    (known : ready.exporter.version ≠ .null) (still : ready.stopped = false) :
    rounds target streams w = rounds target streams ready := by
  rw [rounds, rounds, if_neg (by simp [going]), if_neg (by simp [still]), learnt,
    learn_of_known known]

theorem Opening.finds_version {p q : Position} (opens : Opening target p opening q)
    (datable : p.Datable target) : q.version ≠ .null ∧ q.stopped = p.stopped := by
  cases opens with
  | known known => exact ⟨known, rfl⟩
  | listed unknown _ lists =>
    obtain ⟨listing, _, answered, _, _, dated⟩ := lists
    refine ⟨?_, rfl⟩
    rintro rfl
    rcases datable with known | listed
    · exact known unknown
    · exact listed listing answered dated

variable (target) in
/-- Rounds over two cuts of the same items end alike. -/
theorem rounds_alike {streams others : List Stream} (same : streams.flatten = others.flatten)
    (steady : Stream.Steady streams.flatten) {w : Watcher} (datable : w.position.Datable target) :
    (rounds target streams w).1 = (rounds target others w).1 ∧
    Alike (rounds target streams w).2.1 (rounds target others w).2.1 := by
  cases going : w.stopped with
  | true =>
    rw [rounds_of_stopped target streams going, rounds_of_stopped target others going]
    exact ⟨rfl, rfl⟩
  | false =>
    rcases learnt : learn target w with ⟨failure | done, ready⟩
    · rw [rounds_of_unlisted streams going learnt, rounds_of_unlisted others going learnt]
      exact ⟨rfl, rfl⟩
    · rcases learn_eq target w with ⟨opening, _, _, opens⟩ | ⟨failure, failed, _⟩
      case inr => cases learnt ▸ failed
      rw [learnt] at opens
      obtain ⟨known, still⟩ := opens.finds_version datable
      have ready_going : ready.stopped = false := still.trans going
      rw [rounds_of_learnt going learnt streams known ready_going,
        rounds_of_learnt going learnt others known ready_going]
      obtain ⟨outcome, trail⟩ := rounds_of_steady target streams steady known ready_going
      obtain ⟨outcome', trail'⟩ :=
        rounds_of_steady target others (same ▸ steady) known ready_going
      rw [← same] at outcome' trail'
      exact ⟨outcome.trans outcome'.symm, trail.trans trail'.symm⟩

/-- Two ways to cut the same items into streams, of which no item ends a stream or takes the version
away: both runs come to the same outcome, metrics, version and log, and they make the same requests
but for the watches. -/
theorem stream_cuts_do_not_show (target : Target) (w : Watcher) (streams others : List Stream)
    (same : streams.flatten = others.flatten) (steady : Stream.Steady streams.flatten)
    (datable : w.position.Datable target) :
    let ran := w.run target streams
    let other := w.run target others
    ran.1 = other.1 ∧
    ran.2.1.exporter.metrics = other.2.1.exporter.metrics ∧
    ran.2.1.exporter.version = other.2.1.exporter.version ∧
    ran.2.1.exporter.lines = other.2.1.exporter.lines ∧
    ran.2.1.exporter.calls.filter (fun c => !c.isWatch) =
      other.2.1.exporter.calls.filter (fun c => !c.isWatch) := by
  intro ran other
  let started : Watcher := { w with
    exporter := w.exporter.say .info .watcher
      (Text.ofString "Starting controlplanemachineset controller in namespace " ++
        target.ns.display) }
  obtain ⟨outcome, alike⟩ := rounds_alike target same steady (w := started) datable
  have ended : ran.1 = other.1 ∧ Alike ran.2.1 other.2.1 := by
    rcases first : rounds target streams started with ⟨result, last, left⟩
    rcases second : rounds target others started with ⟨result', last', left'⟩
    rw [first, second] at outcome alike
    obtain rfl : result = result' := outcome
    simp only [started] at first second
    rcases result with failure | done
    · simp only [ran, other, run, first, second]
      exact ⟨trivial, alike⟩
    · simp only [ran, other, run, first, second]
      refine ⟨trivial, ?_⟩
      simp only [Alike, Exporter.unwatched_say]
      exact congrArg (fun e : Exporter => e.say .info .watcher _) alike
  obtain ⟨outcome, alike⟩ := ended
  have indistinct : ran.2.1.exporter.unwatched = other.2.1.exporter.unwatched := alike
  refine ⟨outcome, ?_, ?_, ?_, ?_⟩
  · exact (congrArg Exporter.metrics indistinct :)
  · exact (congrArg Exporter.version indistinct :)
  · exact (congrArg Exporter.lines indistinct :)
  · exact (congrArg Exporter.calls indistinct :)

/-- An event about the machine set `cluster`, a change that makes it inactive, and the event that
follows. -/
def change : List StreamItem :=
  let news (kind version : String) : StreamItem :=
    .event (.object
      [(Text.ofString "type", .text (Text.ofString kind)),
        (Text.ofString "object", .object
          [(Text.ofString "metadata", .object
            [(Text.ofString "name", .text (Text.ofString "cluster")),
              (Text.ofString "resourceVersion", .text (Text.ofString version))])])])
  [news "ADDED" "101",
    .put (Text.ofString "machines") (Text.ofString "cluster")
      (.ok (MachineSet.onAws (Text.ofString "cluster") (Text.ofString "Inactive")
        (Text.ofString "m5.xlarge"))),
    news "MODIFIED" "102"]

/-- The change is followed in one stream, or in three of which one is empty. -/
theorem cut_change_does_not_show :
    let w : Watcher := ⟨Exporter.east (Text.ofString "Active"), false, 0, false, false⟩
    let cuts := [change.take 1, [], change.drop 1]
    [change].flatten = cuts.flatten ∧ Stream.Steady [change].flatten ∧
    w.position.Datable Target.east ∧
    (w.run Target.east [change]).2.1.exporter.calls.length = 6 ∧
    (w.run Target.east cuts).2.1.exporter.calls.length = 8 ∧
    (w.run Target.east cuts).2.1.exporter.metrics.store.map (·.enabled.isTruthy) =
      [true, false] := by
  intro w cuts
  have steady : Stream.Steady [change].flatten := by
    simp only [Stream.Steady, change, List.flatten_cons, List.flatten_nil, List.append_nil,
      List.forall_mem_cons]
    refine ⟨⟨by decide +kernel, ?_⟩, trivial, ⟨by decide +kernel, ?_⟩, nofun⟩
    · exact fun missing => Value.noConfusion (Option.some.inj missing)
    · exact fun missing => Value.noConfusion (Option.some.inj missing)
  have datable : w.position.Datable Target.east := by
    refine .inr fun listing listed => ?_
    obtain rfl := Except.ok.inj listed
    exact fun missing => Value.noConfusion (Except.ok.inj missing)
  obtain ⟨_, metrics, _⟩ := stream_cuts_do_not_show Target.east w [change] cuts rfl steady datable
  refine ⟨rfl, steady, datable, by decide +kernel, by decide +kernel, ?_⟩
  rw [← metrics]
  decide +kernel

end Watcher

end ControlPlaneMetrics
