import ControlPlaneMetrics.Proofs.Reconciliation
import ControlPlaneMetrics.Watch

/-!
How machine sets are brought to be reconciled: by a listing, item after item, and by the
events of a watch. Both come down to the names that are asked for. An event's object gives
its name and a version; the rest of it is not read.
-/
namespace ControlPlaneMetrics

open Metrics

/-- The request for the object of a name. -/
def Target.request (target : Target) (name : Value) : Call :=
  .get target.ns name target.requestTimeout

theorem Api.list_get (api : Api) (listed ns name : Value) :
    (api.list listed).2.get ns name = api.get ns name := by
  unfold list
  split <;> rfl

@[simp] theorem Target.settled_list (target : Target) (api : Api) (ns timeout : Value)
    (calls : List Call) : target.settled api (.list ns timeout :: calls) = target.settled api calls :=
  rfl

/-- A listing takes nothing from what single requests are answered. -/
@[simp] theorem Target.settled_listed (target : Target) (api : Api) (listed : Value)
    (calls : List Call) : target.settled (api.list listed).2 calls = target.settled api calls := by
  have same : Call.answer? (api.list listed).2 = Call.answer? api := by
    funext call
    cases call <;> simp [Call.answer?, Api.list_get]
  simp [settled, same]

/-- The failure of a request that tells of a lost version. -/
def Failure.isLapse : Failure → Bool
  | .api status _ => isGone status
  | _ => false

theorem Failure.isLapse_of_isExit {failure : Failure} (exits : failure.isExit = true) :
    failure.isLapse = false := by
  cases failure with
  | api => cases exits
  | _ => rfl

/-- What stands in for a value has the value's members, or is the value and has none. -/
theorem Value.orEmpty_cases (v : Value) :
    (∃ members, v.orEmpty = .object members ∧ ∀ name, v.member? name = lookup? name members) ∨
    (v.orEmpty = v ∧ (∀ members, v ≠ .object members) ∧ ∀ name, v.member? name = none) := by
  cases truthy : v.isTruthy with
  | false =>
    refine .inl ⟨[], by simp [orEmpty, truthy], fun name => ?_⟩
    cases v <;> simp_all [isTruthy, member?, lookup?]
  | true =>
    cases v with
    | object members => exact .inl ⟨members, by simp [orEmpty, truthy], fun _ => rfl⟩
    | _ => exact .inr ⟨by simp [orEmpty, truthy], by simp, fun _ => rfl⟩

namespace Event

/-- The member of that name, null unless the value is an object that has it. -/
def part (name : String) (v : Value) : Value := (v.member? (Text.ofString name)).getD .null

def kind (event : Value) : Value := part "type" event
def object (event : Value) : Value := part "object" event
def metadata (event : Value) : Value := part "metadata" (object event)
def name (event : Value) : Value := part "name" (metadata event)

/-- The version that the object is said to have, if it is said to have any. -/
def version? (event : Value) : Option Value :=
  (metadata event).member? (Text.ofString "resourceVersion")

def isError (event : Value) : Bool := (kind event).same (.text (Text.ofString "ERROR"))

/-- The event says that the version of the watch is no longer known. -/
def expires (event : Value) : Bool := isError event && isGone (part "code" (object event))

/-- The version known after an event that is handled. -/
def learn (event known : Value) : Value :=
  if expires event then .null
  else if isError event then known
  else (version? event).getD known

/-- The name of the object to be reconciled. -/
def subject? (event : Value) : Option Value :=
  if Exporter.reconciledKinds.any (fun k => (kind event).same (.text k)) ∧ (name event).isTruthy
  then some (name event) else none

def requests (target : Target) (event : Value) : List Call :=
  (subject? event).toList.map target.request

/-- The failure of asking for a member what is no object. -/
def misread? : Value → Option Failure
  | .object _ => none
  | v => some (.misuse (.noMember v.kindName (Text.ofString "get")))

/-- The failure that escapes from an event. The event, its object and, unless it reports an error,
the object's metadata are asked for members; then the request may be answered by a failure that no
reconciliation keeps back. -/
def failure? (target : Target) (api : Api) (event : Value) : Option Failure :=
  (misread? event).or <| (misread? (object event).orEmpty).or <|
    if isError event then none
    else (misread? (metadata event).orEmpty).or <|
      (subject? event).bind fun name => target.exit? (api.get target.ns name)

/-- A failure that escapes from an event does not tell of a lost version, whatever was asked. -/
theorem isLapse_of_failure? {target : Target} {api : Api} {event : Value} {failure : Failure}
    (failed : failure? target api event = some failure) : failure.isLapse = false := by
  have misread {v : Value} (fails : misread? v = some failure) : failure.isLapse = false := by
    cases v <;> cases fails <;> rfl
  rcases Option.or_eq_some_iff.mp failed with fails | ⟨_, failed⟩
  · exact misread fails
  rcases Option.or_eq_some_iff.mp failed with fails | ⟨_, failed⟩
  · exact misread fails
  split at failed
  · cases failed
  rcases Option.or_eq_some_iff.mp failed with fails | ⟨_, failed⟩
  · exact misread fails
  · obtain ⟨name, _, exit⟩ := Option.bind_eq_some_iff.mp failed
    exact Failure.isLapse_of_isExit (Option.filter_eq_some_iff.mp exit).2

theorem subject?_of_isError (error : isError event = true) : subject? event = none := by
  have known : kind event = .text (Text.ofString "ERROR") := (Value.same_text_iff ..).mp error
  have other : Exporter.reconciledKinds.any
      (fun k => (Value.text (Text.ofString "ERROR")).same (.text k)) = false := by decide
  simp [subject?, known, other]

theorem requests_of_isError (target : Target) (event : Value) (error : isError event = true) :
    requests target event = [] := by
  simp [requests, subject?_of_isError error]

theorem requests_of_unnamed (target : Target) (event : Value) (unnamed : name event = .null) :
    requests target event = [] := by
  simp [requests, subject?, unnamed, Value.isTruthy]

end Event

namespace Exporter

/-- The exporter with a version learned. -/
def knowing (version : Value) (e : Exporter) : Exporter := { e with version := version }

theorem asked_nil (target : Target) (lines : List Log.Line) (e : Exporter) :
    e.asked target [] lines = { e with lines := lines } := by
  simp [asked]

/-- The names that are asked for in going through the items. -/
def visited (target : Target) (api : Api) : List Value → List Value
  | [] => []
  | item :: rest =>
    match itemName item with
    | .error _ => []
    | .ok name =>
      name :: if (target.exit? (api.get target.ns name)).isSome then [] else visited target api rest

/-- The failure with which going through the items ends. -/
def visitFailure? (target : Target) (api : Api) : List Value → Option Failure
  | [] => none
  | item :: rest =>
    match itemName item with
    | .error misuse => some (.misuse misuse)
    | .ok name => (target.exit? (api.get target.ns name)).or (visitFailure? target api rest)

/-- Going through the items asks for their names in order. All are asked for unless it fails. -/
theorem reconcileItems_eq (target : Target) (items : List Value) (e : Exporter) :
    ∃ outcome lines, reconcileItems target items e =
        (outcome, e.asked target ((visited target e.api items).map target.request) lines) ∧
      outcome = (visitFailure? target e.api items).elim (.ok ()) .error ∧
      (outcome = .ok () → items.map itemName = (visited target e.api items).map .ok) := by
  induction items generalizing e with
  | nil => exact ⟨.ok (), e.lines, by simp [reconcileItems, visited, asked_nil], rfl, fun _ => rfl⟩
  | cons item rest ih =>
    cases named : itemName item with
    | error misuse =>
      exact ⟨.error (.misuse misuse), e.lines, by simp [reconcileItems, visited, named, asked_nil],
        by simp [visitFailure?, named], by simp⟩
    | ok name =>
      obtain ⟨lines, attempted⟩ := e.attempt_eq target name
      cases exit : target.exit? (e.api.get target.ns name) with
      | some failure =>
        exact ⟨.error failure, lines, by
          simp [reconcileItems, visited, named, attempted, exit, Target.request],
          by simp [visitFailure?, named, exit], by simp⟩
      | none =>
        have same : (e.asked target [target.request name] lines).api = e.api := rfl
        obtain ⟨outcome, later, result, decided, complete⟩ :=
          ih (e.asked target [target.request name] lines)
        rw [same] at result decided complete
        rw [asked_asked] at result
        refine ⟨outcome, later, ?_, ?_, ?_⟩
        · simpa [reconcileItems, visited, named, attempted, exit, Target.request] using result
        · simpa [visitFailure?, named, exit] using decided
        · intro done
          simpa [visited, named, exit] using complete done

/-- The names that a listing makes the exporter ask for. -/
def synced (target : Target) (api : Api) : List Value :=
  match (api.list target.ns).1 with
  | .error _ => []
  | .ok listing =>
    match itemsOf listing with
    | .error _ => []
    | .ok items => visited target (api.list target.ns).2 items

/-- The failure with which a listing ends. -/
def listFailure? (target : Target) (api : Api) : Option Failure :=
  match (api.list target.ns).1 with
  | .error failure => some failure
  | .ok listing =>
    match itemsOf listing with
    | .error misuse => some (.misuse misuse)
    | .ok items =>
      (visitFailure? target (api.list target.ns).2 items).or <|
        match versionOf listing with
        | .error misuse => some (.misuse misuse)
        | .ok _ => none

/-- The API lists objects of these names, with this version. -/
def Lists (target : Target) (api : Api) (names : List Value) (version : Value) : Prop :=
  ∃ listing items, (api.list target.ns).1 = .ok listing ∧ itemsOf listing = .ok items ∧
    items.map itemName = names.map .ok ∧ versionOf listing = .ok version

theorem asked_listed (target : Target) (calls : List Call) (lines : List Log.Line) (e : Exporter) :
    ({ e.call (.list target.ns target.requestTimeout) with
        api := (e.api.list target.ns).2 } : Exporter).asked target calls lines =
      { e.asked target (.list target.ns target.requestTimeout :: calls) lines with
        api := (e.api.list target.ns).2 } := by
  simp [asked, call]

/-- Everything that a listing brings about. The version is learned when all else is done. -/
theorem sync_eq (target : Target) (e : Exporter) :
    ∃ outcome lines version, e.sync target = (outcome,
        { e.asked target (.list target.ns target.requestTimeout ::
            (synced target e.api).map target.request) lines with
          api := (e.api.list target.ns).2 }.knowing version) ∧
      (∀ failure, outcome = .error failure ↔ listFailure? target e.api = some failure) ∧
      (∀ failure, outcome = .error failure → version = e.version) ∧
      (∀ count, outcome = .ok count → count = (synced target e.api).length ∧
        Lists target e.api (synced target e.api) version) := by
  cases answered : (e.api.list target.ns).1 with
  | error failure =>
    refine ⟨.error failure, e.lines, e.version, ?_, ?_, by simp, by simp⟩
    · simp [sync, call, answered, synced, asked, knowing]
    · simp [listFailure?, answered]
  | ok listing =>
    cases itemized : itemsOf listing with
    | error misuse =>
      refine ⟨.error (.misuse misuse), e.lines, e.version, ?_, ?_, by simp, by simp⟩
      · simp [sync, call, answered, itemized, synced, asked, knowing]
      · simp [listFailure?, answered, itemized]
    | ok items =>
      obtain ⟨outcome, lines, result, decided, complete⟩ := reconcileItems_eq target items
        { e.call (.list target.ns target.requestTimeout) with api := (e.api.list target.ns).2 }
      have listed : visited target (e.api.list target.ns).2 items = synced target e.api := by
        simp [synced, answered, itemized]
      rw [asked_listed] at result
      simp only [listed, call] at result complete
      cases visiting : visitFailure? target (e.api.list target.ns).2 items with
      | some failure =>
        obtain rfl : outcome = .error failure := by simpa [visiting] using decided
        refine ⟨.error failure, lines, e.version, ?_, ?_, by simp, by simp⟩
        · simp [sync, call, answered, itemized, result, asked, knowing]
        · simp [listFailure?, answered, itemized, visiting]
      | none =>
        obtain rfl : outcome = .ok () := by simpa [visiting] using decided
        have names := complete rfl
        have count : items.length = (synced target e.api).length := by
          simpa using congrArg List.length names
        cases dated : versionOf listing with
        | error misuse =>
          refine ⟨.error (.misuse misuse), lines, e.version, ?_, ?_, by simp, by simp⟩
          · simp [sync, call, answered, itemized, result, dated, asked, knowing]
          · simp [listFailure?, answered, itemized, visiting, dated]
        | ok version =>
          refine ⟨.ok items.length, (e.sync target).2.lines, version, ?_, ?_, by simp, ?_⟩
          · simp [sync, call, answered, itemized, result, dated, asked, knowing, say]
          · simp [listFailure?, answered, itemized, visiting, dated]
          · rintro _ ⟨⟩
            exact ⟨count, listing, items, answered, itemized, names, dated⟩

theorem handleErrorEvent_eq (event : Value) (e : Exporter) (error : Event.isError event = true) :
    ∃ outcome lines version, handleErrorEvent (Event.object event).orEmpty e =
        (outcome, { e with lines := lines }.knowing version) ∧
      outcome = (Event.misread? (Event.object event).orEmpty).elim
        (.ok (!Event.expires event)) .error ∧
      (∀ go, outcome = .ok go → version = Event.learn event e.version) := by
  rcases Value.orEmpty_cases (Event.object event) with ⟨members, shape, has⟩ | ⟨same, shape, _⟩
  · have code : (lookup? (Text.ofString "code") members).getD .null =
        Event.part "code" (Event.object event) := by simp [Event.part, has]
    rw [shape]
    cases gone : isGone (Event.part "code" (Event.object event)) with
    | true =>
      refine ⟨.ok false, e.expire.lines, .null, ?_, ?_, ?_⟩
      · simp [handleErrorEvent, code, gone, expire, say, knowing]
      · simp [Event.misread?, Event.expires, error, gone]
      · simp [Event.expires, Event.learn, error, gone]
    | false =>
      refine ⟨.ok true, (handleErrorEvent (.object members) e).2.lines, e.version, ?_, ?_, ?_⟩
      · simp [handleErrorEvent, code, gone, say, knowing]
      · simp [Event.misread?, Event.expires, error, gone]
      · simp [Event.expires, Event.learn, error, gone]
  · rw [same]
    cases object : Event.object event with
    | object members => exact absurd object (shape members)
    | _ => exact ⟨_, e.lines, e.version, rfl, rfl, by simp⟩

theorem handleObjectEvent_eq (target : Target) (event : Value) (e : Exporter) :
    ∃ outcome lines version,
      handleObjectEvent target (Event.kind event) (Event.object event).orEmpty e =
        (outcome, (e.asked target (Event.requests target event) lines).knowing version) ∧
      outcome = ((Event.misread? (Event.object event).orEmpty).or <|
        (Event.misread? (Event.metadata event).orEmpty).or <|
        (Event.subject? event).bind fun name => target.exit? (e.api.get target.ns name)).elim
        (.ok true) .error ∧
      (∀ go, outcome = .ok go → version = (Event.version? event).getD e.version) := by
  rcases Value.orEmpty_cases (Event.object event) with ⟨parts, shape, has⟩ | ⟨same, shape, none⟩
  · have found : (lookup? (Text.ofString "metadata") parts).getD .null = Event.metadata event := by
      simp [Event.metadata, Event.part, has]
    rcases Value.orEmpty_cases (Event.metadata event) with ⟨members, whole, has⟩ | ⟨same, whole, none⟩
    · have dated : (lookup? (Text.ofString "resourceVersion") members) = Event.version? event := by
        simp [Event.version?, has]
      have named : (lookup? (Text.ofString "name") members).getD .null = Event.name event := by
        simp [Event.name, Event.part, has]
      rw [shape, whole]
      simp only [Event.misread?, Option.none_or]
      by_cases go : reconciledKinds.any (fun k => (Event.kind event).same (.text k)) ∧
          (Event.name event).isTruthy
      · have subject : Event.subject? event = some (Event.name event) := if_pos go
        obtain ⟨lines, attempted⟩ := attempt_eq target (Event.name event)
          ((e.knowing ((Event.version? event).getD e.version)).say .debug .watcher
            (Text.ofString "Watch event " ++ (Event.kind event).display ++ Text.ofString " for " ++
              place target.ns (Event.name event)))
        simp only [handleObjectEvent, Value.memberOrNull, Except.map, found, whole, dated, named]
        simp only [knowing] at attempted
        rw [if_pos go, attempted]
        simp only [Event.requests, subject, Option.bind_some]
        cases exit : target.exit? (e.api.get target.ns (Event.name event)) with
        | some failure =>
          refine ⟨.error failure, lines, (Event.version? event).getD e.version, ?_, rfl, by simp⟩
          simp [asked, say, knowing, Target.request, exit]
        | none =>
          refine ⟨.ok true, lines, (Event.version? event).getD e.version, ?_, rfl, by simp⟩
          simp [asked, say, knowing, Target.request, exit]
      · have subject : Event.subject? event = Option.none := if_neg go
        refine ⟨.ok true, e.lines, (Event.version? event).getD e.version, ?_, by simp [subject],
          by simp⟩
        simp only [handleObjectEvent, Value.memberOrNull, Except.map, found, whole, dated, named]
        rw [if_neg go]
        simp [Event.requests, subject, asked_nil, knowing]
    · have unnamed : Event.name event = .null := by simp [Event.name, Event.part, none]
      rw [shape]
      simp only [Event.requests_of_unnamed target event unnamed, asked_nil]
      cases metadata : Event.metadata event with
      | object members => exact absurd metadata (whole members)
      | _ =>
        rw [metadata] at found same
        rw [same]
        exact ⟨.error _, e.lines, e.version,
          by simp [handleObjectEvent, Value.memberOrNull, found, same, Except.map, knowing],
          rfl, by simp⟩
  · have unnamed : Event.name event = .null := by
      simp [Event.name, Event.metadata, Event.part, Value.member?]
    rw [same]
    simp only [Event.requests_of_unnamed target event unnamed, asked_nil]
    cases object : Event.object event with
    | object members => exact absurd object (shape members)
    | _ => exact ⟨_, e.lines, e.version, rfl, rfl, by simp⟩

/-- Everything that an event brings about. Unless it cannot be read, its version is learned. -/
theorem handleEvent_eq (target : Target) (event : Value) (e : Exporter) :
    ∃ outcome lines version, e.handleEvent target event =
        (outcome, (e.asked target (Event.requests target event) lines).knowing version) ∧
      outcome = (Event.failure? target e.api event).elim (.ok (!Event.expires event)) .error ∧
      (∀ go, outcome = .ok go → version = Event.learn event e.version) := by
  cases event with
  | object members =>
    have parts : e.handleEvent target (.object members) =
        if Event.isError (.object members) then
          handleErrorEvent (Event.object (.object members)).orEmpty e
        else handleObjectEvent target (Event.kind (.object members))
          (Event.object (.object members)).orEmpty e := rfl
    rw [parts, Event.failure?, Event.misread?, Option.none_or]
    cases error : Event.isError (.object members) with
    | true =>
      rw [if_pos rfl, if_pos rfl, Option.or_none]
      simp only [Event.requests_of_isError target _ error, asked_nil]
      exact handleErrorEvent_eq _ e error
    | false =>
      rw [if_neg Bool.false_ne_true, if_neg Bool.false_ne_true]
      simpa [Event.expires, Event.learn, error] using
        handleObjectEvent_eq target (.object members) e
  | _ =>
    exact ⟨.error _, e.lines, e.version,
      by rw [Event.requests_of_unnamed target _ (by rfl), asked_nil]; rfl, rfl, by simp⟩

/-- An event that is handled is one that nothing escapes from. -/
theorem handleEvent_ok {target : Target} {event : Value} {e : Exporter} {go : Bool}
    (handled : (e.handleEvent target event).1 = .ok go) :
    Event.failure? target e.api event = none ∧ go = !Event.expires event := by
  obtain ⟨outcome, _, _, result, decided, _⟩ := e.handleEvent_eq target event
  obtain rfl : outcome = .ok go := by rw [← handled, result]
  cases failed : Event.failure? target e.api event with
  | some failure => simp [failed] at decided
  | none => exact ⟨rfl, by simpa [failed] using decided⟩

end Exporter

end ControlPlaneMetrics
