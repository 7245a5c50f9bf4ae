import ControlPlaneMetrics.Proofs.Convergence
import ControlPlaneMetrics.Proofs.Extraction

/-!
A reconciliation that fails costs one line and nothing else. The objects after it in a listing are
reconciled all the same, the version is learned, and the store is as if the failing objects had not
been listed. Only a request to exit is let through.
-/
namespace ControlPlaneMetrics

open Metrics

/-! ## No value asks to exit -/

theorem observe_isExit {v : Value} {failure : Failure} (refused : observe v = .error failure) :
    failure.isExit = false := by
  cases validated : Resource.machineSet.validate v with
  | error report =>
    rw [observe, parseMachineSet, validated] at refused
    cases refused
    rfl
  | ok resource =>
    rw [observe_eq ⟨resource, validated⟩] at refused
    split at refused
    · cases refused
      rfl
    · split at refused
      · split at refused
        · cases refused
          rfl
        · next scheme _ =>
          cases sized : Provider.configuredSize scheme.platform scheme.model (Declared.blob v) with
          | ok size => simp [sized, Except.map] at refused
          | error cause =>
            simp only [sized, Except.map, Except.error.injEq] at refused
            subst refused
            rcases Provider.configuredSize_error sized with decoding | ⟨container, rfl⟩
            · exact Failure.isExit_of_isDecoding decoding
            · rfl
      · cases refused
        rfl

/-- The API may fail to answer a request for the object, but it does not ask to exit. -/
def Api.Ordinary (api : Api) (ns name : Value) : Prop :=
  ∀ failure, api.get ns name = .error failure → failure.isExit = false

theorem Target.refusal?_isExit {target : Target} {answer : Answer} {failure : Failure}
    (ordinary : ∀ failure, answer = .error failure → failure.isExit = false)
    (refused : target.refusal? answer = some failure) : failure.isExit = false := by
  cases answer with
  | error cause =>
    simp only [refusal?] at refused
    split at refused
    · cases refused
    · cases refused
      exact ordinary _ rfl
  | ok v =>
    simp only [refusal?] at refused
    split at refused
    · next rejected =>
      cases refused
      exact observe_isExit rejected
    · obtain ⟨misuse, _, rfl⟩ := Option.map_eq_some_iff.mp refused
      rfl

/-- A request lets nothing escape if its answer is no request to exit. -/
theorem Target.exit?_of_ordinary {target : Target} {api : Api} {name : Value}
    (ordinary : api.Ordinary target.ns name) : target.exit? (api.get target.ns name) = none := by
  rw [exit?, Option.filter_eq_none_iff]
  intro failure refused
  simp [refusal?_isExit ordinary refused]

theorem Target.settle?_of_refused {target : Target} {answer : Answer} {failure : Failure}
    (refused : target.refusal? answer = some failure) : target.settle? answer = none := by
  cases answer with
  | error => rfl
  | ok v =>
    cases observed : observe v with
    | error => simp [settle?, observed]
    | ok o =>
      cases misused : (target.key o).misuse? with
      | none => simp [refusal?, observed, misused] at refused
      | some misuse => simp [settle?, observed, misused]

namespace Exporter

/-- The errors that have been reported, in order. -/
def errors (e : Exporter) : List Log.Line := e.lines.filter (·.severity = .error)

/-- The failure of the object's reconciliation, if it fails. -/
def failure? (target : Target) (e : Exporter) (name : Value) : Option Failure :=
  match (e.reconcile target target.ns name).1 with
  | .ok _ => none
  | .error failure => some failure

def complaint (target : Target) (name : Value) (failure : Failure) : Log.Line :=
  ⟨.error, .watcher, failureText (place target.ns name) failure⟩

/-- The line that the object's reconciliation leaves behind, if it fails. -/
def complaint? (target : Target) (e : Exporter) (name : Value) : Option Log.Line :=
  (e.failure? target name).map (complaint target name)

theorem failure?_eq (target : Target) (e : Exporter) (name : Value) :
    e.failure? target name = target.refusal? (e.api.get target.ns name) := by
  obtain ⟨lines, result⟩ := e.reconcile_eq target target.ns name
  rw [failure?, result]
  cases target.refusal? (e.api.get target.ns name) <;> rfl

/-- A failure depends on what the API answers, and on nothing else. -/
theorem complaint?_congr {target : Target} {e f : Exporter} {name : Value}
    (same : f.api.get target.ns name = e.api.get target.ns name) :
    f.complaint? target name = e.complaint? target name := by
  rw [complaint?, complaint?, failure?_eq, failure?_eq, same]

/-! ## What is said -/

@[simp] theorem errors_say (severity : Log.Severity) (source : Log.Source) (t : Text)
    (e : Exporter) : (e.say severity source t).errors =
      e.errors ++ if severity = .error then [⟨severity, source, t⟩] else [] := by
  by_cases error : severity = .error <;> simp [errors, say, error]

@[simp] theorem errors_call (c : Call) (e : Exporter) : (e.call c).errors = e.errors := rfl

@[simp] theorem errors_knowing (version : Value) (e : Exporter) :
    (e.knowing version).errors = e.errors := rfl

theorem errors_record (target : Target) (ns name : Value) (o : Observation) (e : Exporter) :
    (record target ns name o e).2.errors = e.errors := by
  unfold record
  simp only []
  split
  · simp
  · next written =>
    simp only [set, Except.map] at written
    split at written
    · cases written
    · cases written
      simp [errors, say]

/-- A reconciliation itself reports no error. -/
theorem errors_reconcile (target : Target) (ns name : Value) (e : Exporter) :
    (e.reconcile target ns name).2.errors = e.errors := by
  unfold reconcile
  simp only []
  split
  · split <;> simp
  · simp
  · split
    · simp
    · simp [errors_record]

/-- A reconciliation that is attempted does not stop anything, and reports its failure once. -/
theorem attempt_of_ordinary {target : Target} {name : Value} {e : Exporter}
    (ordinary : e.api.Ordinary target.ns name) :
    ∃ lines, e.attempt target name = (.ok (), e.asked target [target.request name] lines) ∧
      (e.attempt target name).2.errors = e.errors ++ (e.complaint? target name).toList := by
  obtain ⟨lines, result⟩ := e.attempt_eq target name
  have contained (failure : Failure) (failed : e.failure? target name = some failure) :
      failure.isExit = false :=
    Target.refusal?_isExit ordinary (e.failure?_eq target name ▸ failed)
  refine ⟨lines, by rw [result, Target.exit?_of_ordinary ordinary]; rfl, ?_⟩
  -- the state is known up to its lines; which of them are errors has to be read off the attempt
  have quiet := errors_reconcile target target.ns name e
  rw [attempt]
  cases outcome : e.reconcile target target.ns name with
  | mk first after =>
    rw [outcome] at quiet
    cases first with
    | ok =>
      have passed : e.failure? target name = none := by simp [failure?, outcome]
      simpa [complaint?, passed] using quiet
    | error failure =>
      have failed : e.failure? target name = some failure := by simp [failure?, outcome]
      simp [complaint?, complaint, failed, contained failure failed, quiet]

/-! ## A listing -/

/-- The reports of the objects whose reconciliations fail, in the order of their names. -/
def complaints (target : Target) (e : Exporter) (names : List Value) : List Log.Line :=
  names.filterMap (e.complaint? target)

theorem complaints_congr {target : Target} {e f : Exporter}
    (same : ∀ name, f.api.get target.ns name = e.api.get target.ns name) (names : List Value) :
    f.complaints target names = e.complaints target names := by
  have one : f.complaint? target = e.complaint? target :=
    funext fun name => complaint?_congr (same name)
  rw [complaints, complaints, one]

/-- Objects whose reconciliations fail settle nothing. -/
theorem settled_of_succeeding (target : Target) (e : Exporter) (names : List Value) :
    ((names.filter fun name => (e.failure? target name).isNone).filterMap fun name =>
        target.settle? (e.api.get target.ns name)) =
      names.filterMap fun name => target.settle? (e.api.get target.ns name) := by
  rw [List.filterMap_filter]
  congr 1
  funext name
  cases failed : e.failure? target name with
  | none => rfl
  | some failure =>
    rw [failure?_eq] at failed
    simp [Target.settle?_of_refused failed]

/-- Whatever comes of the first item, the rest are reconciled, and each failure is reported. -/
theorem reconcileItems_of_ordinary {target : Target} {items names : List Value} {e : Exporter}
    (named : items.map itemName = names.map .ok)
    (ordinary : ∀ name ∈ names, e.api.Ordinary target.ns name) :
    ∃ lines, reconcileItems target items e =
        (.ok (), e.asked target (names.map target.request) lines) ∧
      (reconcileItems target items e).2.errors = e.errors ++ e.complaints target names := by
  induction names generalizing items e with
  | nil =>
    obtain rfl : items = [] := by simpa using named
    exact ⟨e.lines, by simp [reconcileItems, asked_nil], by simp [reconcileItems, complaints]⟩
  | cons name names ih =>
    cases items with
    | nil => cases named
    | cons item items =>
      obtain ⟨first, rest⟩ := List.cons.inj named
      obtain ⟨this, others⟩ := List.forall_mem_cons.mp ordinary
      obtain ⟨lines, attempted, reported⟩ := attempt_of_ordinary this
      -- the rest is gone through by an exporter that has said and stored more, but whose API is the
      -- same, and so are the failures to come
      let next : Exporter := e.asked target [target.request name] lines
      have after : reconcileItems target (item :: items) e =
          reconcileItems target items next := by
        simp [reconcileItems, first, attempted, next]
      have same : next.complaints target names = e.complaints target names :=
        complaints_congr (f := next) (e := e) (fun _ => rfl) names
      obtain ⟨later, result, errors⟩ := ih (e := next) rest others
      rw [attempted] at reported
      refine ⟨later, ?_, ?_⟩
      · rw [after, result, asked_asked]
        rfl
      · rw [after, errors, reported, same]
        cases complained : e.complaint? target name <;> simp [complaints, complained]

/-- A listing is completed, whatever comes of the objects that it names. -/
theorem sync_of_ordinary {target : Target} {names : List Value} {version : Value} {e : Exporter}
    (lists : Lists target e.api names version)
    (ordinary : ∀ name ∈ names, e.api.Ordinary target.ns name) :
    ∃ lines, e.sync target = (.ok names.length,
        { e.asked target (.list target.ns target.requestTimeout :: names.map target.request) lines with
          api := (e.api.list target.ns).2 }.knowing version) ∧
      (e.sync target).2.errors = e.errors ++ e.complaints target names := by
  obtain ⟨listing, items, answered, itemized, named, dated⟩ := lists
  let begun : Exporter :=
    { e.call (.list target.ns target.requestTimeout) with api := (e.api.list target.ns).2 }
  have same : ∀ name, begun.api.get target.ns name = e.api.get target.ns name :=
    Api.list_get e.api target.ns target.ns
  obtain ⟨lines, result, errors⟩ := reconcileItems_of_ordinary (e := begun) named
    fun name member failure failed => ordinary name member failure (same name ▸ failed)
  have count : items.length = names.length := by simpa using congrArg List.length named
  have done : e.sync target = (.ok items.length,
      ((reconcileItems target items begun).2.knowing version).say .info .watcher
        (Text.ofString "Synced " ++ Text.ofNat items.length ++
          Text.ofString " controlplanemachinesets in " ++ target.ns.display ++
          Text.ofString " (resourceVersion=" ++ version.display ++ Text.ofString ")")) := by
    rw [result]
    simp only [begun, call] at result
    simp only [sync, call, answered, itemized, dated, result]
    rfl
  rw [complaints_congr same] at errors
  refine ⟨(e.sync target).2.lines, ?_, ?_⟩
  · have listed := asked_listed target (names.map target.request) lines e
    rw [done, result, count]
    simp only [begun, listed]
    rfl
  · rw [done, errors_say, errors_knowing, errors]
    simp [begun, Exporter.errors, call]

/-! ## An event -/

/-- What stands in for an object or null is an object, with the same members. -/
theorem orEmpty_of_nullOrObject {v : Value} (shape : v.isNull = true ∨ v.isObject = true) :
    ∃ members, v.orEmpty = .object members ∧
      ∀ name, v.member? name = lookup? name members := by
  rcases v.orEmpty_cases with found | ⟨_, other, _⟩
  · exact found
  · cases v with
    | null => exact ⟨[], rfl, fun _ => rfl⟩
    | object members => exact absurd rfl (other members)
    | _ => simp [Value.isNull, Value.isObject] at shape

end Exporter

namespace Event

/-- The event can be read as far as it has to be. -/
structure Readable (event : Value) : Prop where
  whole : event.isObject = true
  object : (object event).isNull = true ∨ (object event).isObject = true
  metadata : (metadata event).isNull = true ∨ (metadata event).isObject = true

theorem misread?_of_nullOrObject {v : Value} (shape : v.isNull = true ∨ v.isObject = true) :
    misread? v.orEmpty = none := by
  obtain ⟨members, whole, _⟩ := Exporter.orEmpty_of_nullOrObject shape
  rw [whole]
  rfl

theorem failure?_of_readable {target : Target} {api : Api} {event : Value}
    (readable : Readable event)
    (ordinary : ∀ name, subject? event = some name → api.Ordinary target.ns name) :
    failure? target api event = none := by
  have whole : misread? event = none := by
    cases event with
    | object members => rfl
    | _ => cases readable.whole
  rw [failure?, whole, misread?_of_nullOrObject readable.object,
    misread?_of_nullOrObject readable.metadata]
  have kept : ((subject? event).bind fun name => target.exit? (api.get target.ns name)) = none := by
    cases subject : subject? event with
    | none => rfl
    | some name => exact Target.exit?_of_ordinary (ordinary name subject)
  simp [kept]

end Event

namespace Exporter

/-- An event about an object, in terms of what it says. -/
theorem handleObjectEvent_of_readable {target : Target} {event : Value} {e : Exporter}
    (readable : Event.Readable event) :
    handleObjectEvent target (Event.kind event) (Event.object event).orEmpty e =
      match Event.subject? event with
      | none => (.ok true, e.knowing ((Event.version? event).getD e.version))
      | some name =>
        match ((e.knowing ((Event.version? event).getD e.version)).say .debug .watcher
          (Text.ofString "Watch event " ++ (Event.kind event).display ++ Text.ofString " for " ++
            place target.ns name)).attempt target name with
        | (.error failure, e) => (.error failure, e)
        | (.ok (), e) => (.ok true, e) := by
  obtain ⟨parts, whole, has⟩ := orEmpty_of_nullOrObject readable.object
  obtain ⟨members, about, holds⟩ := orEmpty_of_nullOrObject readable.metadata
  have found : (lookup? (Text.ofString "metadata") parts).getD .null = Event.metadata event := by
    simp [Event.metadata, Event.part, has]
  have dated : lookup? (Text.ofString "resourceVersion") members = Event.version? event := by
    simp [Event.version?, holds]
  have named : (lookup? (Text.ofString "name") members).getD .null = Event.name event := by
    simp [Event.name, Event.part, holds]
  rw [whole]
  simp only [handleObjectEvent, Value.memberOrNull, Except.map, found, about, dated, named]
  by_cases go : reconciledKinds.any (fun k => (Event.kind event).same (.text k)) ∧
      (Event.name event).isTruthy
  · have subject : Event.subject? event = some (Event.name event) := if_pos go
    rw [if_pos go, subject]
    rfl
  · have subject : Event.subject? event = none := if_neg go
    rw [if_neg go, subject]
    rfl

theorem handleEvent_of_isObject {event : Value} (whole : event.isObject = true) (target : Target)
    (e : Exporter) : e.handleEvent target event =
      if Event.isError event then handleErrorEvent (Event.object event).orEmpty e
      else handleObjectEvent target (Event.kind event) (Event.object event).orEmpty e := by
  cases event with
  | object members => rfl
  | _ => cases whole

/-- An event that names an object to be reconciled is handled, whatever comes of the object. -/
theorem handleEvent_of_subject {target : Target} {event name : Value} {e : Exporter}
    (readable : Event.Readable event) (subject : Event.subject? event = some name)
    (ordinary : e.api.Ordinary target.ns name) :
    ∃ lines, e.handleEvent target event =
        (.ok true, (e.asked target [target.request name] lines).knowing
          ((Event.version? event).getD e.version)) ∧
      (e.handleEvent target event).2.errors = e.errors ++ (e.complaint? target name).toList := by
  have about : Event.isError event = false := by
    by_contra error
    rw [Event.subject?_of_isError (by simpa using error)] at subject
    cases subject
  have handled : e.handleEvent target event =
      handleObjectEvent target (Event.kind event) (Event.object event).orEmpty e := by
    simp [handleEvent_of_isObject readable.whole, about]
  let begun : Exporter := (e.knowing ((Event.version? event).getD e.version)).say .debug .watcher
    (Text.ofString "Watch event " ++ (Event.kind event).display ++ Text.ofString " for " ++
      place target.ns name)
  have same : begun.complaint? target name = e.complaint? target name := complaint?_congr rfl
  obtain ⟨lines, attempted, errors⟩ := attempt_of_ordinary (e := begun) ordinary
  rw [handled, handleObjectEvent_of_readable readable, subject]
  refine ⟨lines, ?_, ?_⟩
  · simp only [begun] at attempted
    simp only [attempted]
    rfl
  · rw [same, attempted] at errors
    simp only [begun] at attempted errors
    simp only [attempted]
    rw [errors]
    simp

/-- An event that can be read does not fail. -/
theorem handleEvent_completes {target : Target} {event : Value} {e : Exporter}
    (readable : Event.Readable event)
    (ordinary : ∀ name, Event.subject? event = some name → e.api.Ordinary target.ns name) :
    (e.handleEvent target event).1 = .ok (!Event.expires event) := by
  obtain ⟨outcome, _, _, result, decided, _⟩ := e.handleEvent_eq target event
  rw [result, decided, Event.failure?_of_readable readable ordinary]
  rfl

/-- No failure of an object disturbs a listing or an event. A listing asks for every object that it
names, once and in order, reports those that fail, learns its version, and leaves the store that it
would leave if only the others had been listed. An event that can be read is handled, and if its
object fails, a report is all that is added. -/
theorem failed_reconciliations_are_contained (target : Target) (e : Exporter) :
    (∀ names version, Lists target e.api names version →
      (∀ name ∈ names, e.api.Ordinary target.ns name) →
      (e.sync target).1 = .ok names.length ∧
      (e.sync target).2.calls =
        e.calls ++ .list target.ns target.requestTimeout :: names.map target.request ∧
      (e.sync target).2.errors = e.errors ++ e.complaints target names ∧
      (e.sync target).2.version = version ∧
      ∀ (other : Exporter) since, other.metrics.store = e.metrics.store →
        (∀ name, other.api.get target.ns name = e.api.get target.ns name) →
        Lists target other.api (names.filter fun name => (e.failure? target name).isNone) since →
        (other.sync target).2.metrics.store = (e.sync target).2.metrics.store) ∧
    (∀ event, Event.Readable event →
      (∀ name, Event.subject? event = some name → e.api.Ordinary target.ns name) →
      (∃ go, (e.handleEvent target event).1 = .ok go) ∧
      ∀ kind name, Event.kind event = .text kind → kind ∈ reconciledKinds →
        Event.name event = .text name → name ≠ [] →
        (e.handleEvent target event).1 = .ok true ∧
        (e.handleEvent target event).2.calls = e.calls ++ [target.request (.text name)] ∧
        (e.handleEvent target event).2.errors =
          e.errors ++ (e.complaint? target (.text name)).toList ∧
        (e.handleEvent target event).2.version = (Event.version? event).getD e.version ∧
        ((e.failure? target (.text name)).isSome →
          (e.handleEvent target event).2.metrics = e.metrics)) := by
  refine ⟨fun names version lists ordinary => ?_, fun event readable ordinary =>
    ⟨⟨_, handleEvent_completes readable ordinary⟩, fun kind name kindIs reconciled nameIs nonempty => ?_⟩⟩
  · obtain ⟨lines, result, errors⟩ := sync_of_ordinary lists ordinary
    refine ⟨by rw [result], by rw [result]; rfl, errors, by rw [result]; rfl, ?_⟩
    intro other since stored answered relists
    -- both listings are completed, and what they settle in the end is the same
    obtain ⟨_, others, _⟩ := sync_of_ordinary relists fun name member failure failed =>
      ordinary name (List.mem_of_mem_filter member) failure (answered name ▸ failed)
    rw [result, others]
    simp only [knowing, asked, Target.settled_list, Target.settled_requests, stored, answered,
      settled_of_succeeding]
  · have subject : Event.subject? event = some (.text name) := by
      rw [Event.subject?, nameIs]
      refine if_pos ⟨List.any_eq_true.mpr ⟨kind, reconciled, ?_⟩, ?_⟩
      · simp [kindIs, Value.same]
      · simp [Value.isTruthy, nonempty]
    obtain ⟨lines, result, errors⟩ :=
      handleEvent_of_subject (e := e) readable subject (ordinary _ subject)
    refine ⟨by rw [result], by rw [result]; rfl, errors, by rw [result]; rfl, fun failed => ?_⟩
    rw [failure?_eq] at failed
    obtain ⟨failure, refused⟩ := Option.isSome_iff_exists.mp failed
    rw [result]
    simp [knowing, asked, Target.request, Target.settle?_of_refused refused]

/-- A listing of objects of these names. -/
def listingOf (names : List String) : Value :=
  .object
    [(Text.ofString "items", .list (names.map fun name =>
      .object [(Text.ofString "metadata", .object
        [(Text.ofString "name", .text (Text.ofString name))])])),
      (Text.ofString "metadata", .object
        [(Text.ofString "resourceVersion", .text (Text.ofString "7"))])]

/-- An event that says of the object of this name that it is gone. -/
def deletionOf (name : String) : Value :=
  .object
    [(Text.ofString "type", .text (Text.ofString "DELETED")),
      (Text.ofString "object", .object
        [(Text.ofString "metadata", .object
          [(Text.ofString "name", .text (Text.ofString name))])])]

/-- An exporter whose API has a machine set, a value that is none, and an object that it does not
give out. The next listing has these names. -/
def unreliable (names : List String) : Exporter :=
  let under (name : String) : Text × Text := (Text.ofString "machines", Text.ofString name)
  Exporter.initial
    { objects :=
        [(under "sound", .ok (MachineSet.onAws (Text.ofString "sound") (Text.ofString "Active")
            (Text.ofString "m5.large"))),
          (under "empty", .ok .null),
          (under "down", .error (.api (.int 500) (.text (Text.ofString "Internal Server Error"))))]
      listings := [.ok (listingOf names)]
      cluster := none }

/-- Two objects of three fail, and the third is stored as if it had been listed alone. A deletion of
an object that cannot be fetched is handled. -/
theorem unreliable_sync_stores_sound_object :
    let e := unreliable ["down", "empty", "sound"]
    (e.sync Target.east).1 = .ok 3 ∧
    (e.sync Target.east).2.errors.length = 2 ∧
    (e.sync Target.east).2.metrics.store =
      ((unreliable ["sound"]).sync Target.east).2.metrics.store ∧
    (e.handleEvent Target.east (deletionOf "down")).1 = .ok true ∧
    (e.handleEvent Target.east (deletionOf "down")).2.metrics = e.metrics := by
  intro e
  let names : List Value := ["down", "empty", "sound"].map fun name => .text (Text.ofString name)
  have lists : Lists Target.east e.api names (.text (Text.ofString "7")) :=
    ⟨_, _, rfl, rfl, rfl, rfl⟩
  have ordinary : ∀ name ∈ names, e.api.Ordinary Target.east.ns name := by
    intro name member failure failed
    rcases List.mem_cons.mp member with rfl | member
    · cases failed
      rfl
    rcases List.mem_cons.mp member with rfl | member
    · cases failed
    · obtain rfl := List.mem_singleton.mp member
      cases failed
  have alone : Lists Target.east (unreliable ["sound"]).api
      (names.filter fun name => (e.failure? Target.east name).isNone)
      (.text (Text.ofString "7")) := ⟨_, _, rfl, rfl, rfl, rfl⟩
  have readable : Event.Readable (deletionOf "down") := ⟨rfl, .inr rfl, .inr rfl⟩
  obtain ⟨listed, handled⟩ := failed_reconciliations_are_contained Target.east e
  obtain ⟨count, _, errors, _, store⟩ := listed names _ lists ordinary
  obtain ⟨_, named⟩ := handled (deletionOf "down") readable fun name subject => by
    cases subject
    exact ordinary _ (.head _)
  obtain ⟨going, _, _, _, metrics⟩ :=
    named (Text.ofString "DELETED") (Text.ofString "down") rfl (by decide) rfl (by decide)
  refine ⟨count, ?_, (store (unreliable ["sound"]) _ rfl (fun _ => rfl) alone).symm, going, metrics rfl⟩
  rw [errors]
  rfl

end Exporter

end ControlPlaneMetrics
