import ControlPlaneMetrics.Proofs.Store
import ControlPlaneMetrics.Reconcile

/-!
One reconciliation, as its request and the answer to it determine it. The answer alone
decides between a failure, nothing and one write; what the exporter held before decides
only where that write goes. Nothing else is changed but what is said.
-/
namespace ControlPlaneMetrics

open Metrics

namespace Provider

theorem configuredSize_text (h : configuredSize platform model blob = .ok size) :
    ∃ t, size = .text t := by
  cases blob with
  | null => simp [configuredSize] at h
  | _ =>
    simp only [configuredSize] at h
    split at h
    · cases h
    · split at h
      · cases h
        exact ⟨_, rfl⟩
      · cases h
    · cases h

theorem decoder_text (registered : lookup? platform builtIn = some decoder)
    (decoded : decoder blob = .ok size) : ∃ t, size = .text t := by
  simp only [builtIn, lookup?] at registered
  split at registered
  · cases registered
    exact configuredSize_text decoded
  · split at registered
    · cases registered
      exact configuredSize_text decoded
    · cases registered

theorem extract_text (h : extract builtIn template = .ok (platform, size)) :
    ∃ t, size = .text t := by
  simp only [extract] at h
  split at h
  · cases h
  cases described : template.machine with
  | none => simp [described] at h
  | some machine =>
    cases declared : machine.platform with
    | none => simp [described, declared] at h
    | some name =>
      cases registered : lookup? name builtIn with
      | none => simp [described, declared, registered] at h
      | some decoder =>
        cases decoded : decoder machine.spec.providerSpec.value with
        | error failure => simp [described, declared, registered, decoded, Except.map] at h
        | ok found =>
          simp only [described, declared, registered, decoded, Except.map, Except.ok.injEq,
            Prod.mk.injEq] at h
          exact h.2 ▸ decoder_text registered decoded

end Provider

/-- The three readings that an observation is put together from. -/
theorem observe_eq_ok_iff (v : Value) (o : Observation) : observe v = .ok o ↔
    ∃ resource, parseMachineSet v = .ok resource ∧
      parseState (Resource.ofOption .text resource.spec.state) = .ok o.enabled ∧
      Provider.extract Provider.builtIn resource.spec.template = .ok (o.platform, o.instanceType) := by
  obtain ⟨platform, size, enabled⟩ := o
  cases parsed : parseMachineSet v with
  | error failure => simp [observe, parsed, bind, Except.bind]
  | ok resource =>
    cases state : parseState (Resource.ofOption .text resource.spec.state) with
    | error failure => simp [observe, parsed, state, bind, Except.bind]
    | ok flag =>
      cases extracted : Provider.extract Provider.builtIn resource.spec.template with
      | error failure => simp [observe, parsed, state, extracted, bind, Except.bind]
      | ok found =>
        have put : observe v = .ok ⟨found.1, found.2, flag⟩ := by
          simp [observe, parsed, state, extracted, bind, Except.bind]
        constructor
        · intro observed
          cases put.symm.trans observed
          exact ⟨resource, rfl, state, extracted⟩
        · rintro ⟨_, ⟨⟩, flagged, decoded⟩
          cases state.symm.trans flagged
          cases extracted.symm.trans decoded
          exact put

theorem observe_text (h : observe v = .ok o) : ∃ t, o.instanceType = .text t := by
  obtain ⟨_, _, _, extracted⟩ := (observe_eq_ok_iff v o).mp h
  exact Provider.extract_text extracted

/-- The failure of a request for an object that is not there. -/
def Failure.isAbsent : Failure → Bool
  | .api status _ => isNotFound status
  | _ => false

namespace Target

def key (target : Target) (o : Observation) : Key := .typed target.clusterId o.instanceType

/-- The failure of a reconciliation that got the answer. -/
def refusal? (target : Target) : Answer → Option Failure
  | .error failure => if failure.isAbsent then none else some failure
  | .ok v =>
    match observe v with
    | .error failure => some failure
    | .ok o => (target.key o).misuse?.map .misuse

/-- The write of a reconciliation that got the answer. -/
def settle? (target : Target) : Answer → Option Write
  | .error _ => none
  | .ok v =>
    match observe v with
    | .error _ => none
    | .ok o => if (target.key o).misuse?.isSome then none else some (target.key o, .bool o.enabled)

/-- The failure that no reconciliation keeps back. -/
def exit? (target : Target) (answer : Answer) : Option Failure :=
  (target.refusal? answer).filter Failure.isExit

end Target

/-- Exactly the machine sets that pass every check are written. -/
theorem Target.settle?_eq_some_iff (target : Target) (answer : Answer) (w : Write) :
    target.settle? answer = some w ↔ ∃ v o, answer = .ok v ∧ observe v = .ok o ∧
      (target.key o).misuse? = none ∧ w = (target.key o, .bool o.enabled) := by
  cases answer with
  | error failure => simp [settle?]
  | ok v =>
    cases observed : observe v with
    | error failure => simp [settle?, observed]
    | ok o => cases misused : (target.key o).misuse? <;> simp [settle?, observed, misused, eq_comm]

/-- Settled keys are typed, under the target's identifier and a text. -/
theorem Target.settle?_key {target : Target} {answers : List Answer} {w : Write}
    (settled : w ∈ answers.filterMap target.settle?) :
    ∃ size : Text, w.1 = .typed target.clusterId (.text size) := by
  obtain ⟨answer, _, one⟩ := List.mem_filterMap.mp settled
  obtain ⟨v, o, _, observed, _, rfl⟩ := (target.settle?_eq_some_iff answer w).mp one
  obtain ⟨size, sized⟩ := observe_text observed
  exact ⟨size, by rw [key, sized]⟩

/-- The answer to a request for one object. -/
def Call.answer? (api : Api) : Call → Option Answer
  | .get ns name _ => some (api.get ns name)
  | _ => none

/-- The writes of the reconciliations that made the calls. -/
def Target.settled (target : Target) (api : Api) (calls : List Call) : List Write :=
  (calls.filterMap (Call.answer? api)).filterMap target.settle?

@[simp] theorem Target.settled_nil (target : Target) (api : Api) : target.settled api [] = [] := rfl

@[simp] theorem Target.settled_append (target : Target) (api : Api) (first second : List Call) :
    target.settled api (first ++ second) =
      target.settled api first ++ target.settled api second := by
  simp [settled]

@[simp] theorem Target.settled_get (target : Target) (api : Api) (ns name timeout : Value) :
    target.settled api [.get ns name timeout] = (target.settle? (api.get ns name)).toList := by
  cases h : target.settle? (api.get ns name) <;> simp [settled, Call.answer?, h]

namespace Exporter

/-- The exporter after reconciliations that made the calls. -/
def asked (target : Target) (calls : List Call) (lines : List Log.Line) (e : Exporter) : Exporter :=
  { e with
    calls := e.calls ++ calls
    lines := lines
    metrics := { e.metrics with
      store := Store.putAll (target.settled e.api calls) e.metrics.store } }

theorem asked_asked (target : Target) (first second : List Call) (lines lines' : List Log.Line)
    (e : Exporter) : (e.asked target first lines).asked target second lines' =
      e.asked target (first ++ second) lines' := by
  simp [asked, Store.putAll_append]

/-- Everything that a reconciliation does. -/
theorem reconcile_eq (target : Target) (ns name : Value) (e : Exporter) :
    ∃ lines, e.reconcile target ns name =
      ((target.refusal? (e.api.get ns name)).elim (.ok ⟨false, .zero⟩) .error,
        e.asked target [.get ns name target.requestTimeout] lines) := by
  cases fetched : e.api.get ns name with
  | error failure =>
    cases failure with
    | api status reason =>
      cases absent : isNotFound status <;>
        exact ⟨_, by simp [reconcile, fetched, absent, asked, Target.settle?, Target.refusal?,
          Failure.isAbsent, say, call]; rfl⟩
    | _ =>
      exact ⟨_, by simp [reconcile, fetched, asked, Target.settle?, Target.refusal?,
        Failure.isAbsent, say, call]; rfl⟩
  | ok v =>
    cases observed : observe v with
    | error failure =>
      exact ⟨_, by simp [reconcile, fetched, observed, asked, Target.settle?, Target.refusal?,
        say, call]; rfl⟩
    | ok o =>
      cases refused : (target.key o).misuse? with
      | some misuse =>
        have kept : (Key.typed target.clusterId o.instanceType).misuse? = some misuse := refused
        exact ⟨_, by simp [reconcile, record, set, Store.set, Except.map, fetched, observed, kept,
          refused, asked, Target.settle?, Target.refusal?, say, call]; rfl⟩
      | none =>
        have kept : (Key.typed target.clusterId o.instanceType).misuse? = none := refused
        exact ⟨_, by simp [reconcile, record, set, Store.set, Except.map, fetched, observed, kept,
          asked, Target.settle?, Target.refusal?, say, call, Store.putAll, Target.key]; rfl⟩

/-- A reconciliation whose failure is reported does the same, and fails only to exit. -/
theorem attempt_eq (target : Target) (name : Value) (e : Exporter) :
    ∃ lines, e.attempt target name =
      ((target.exit? (e.api.get target.ns name)).elim (.ok ()) .error,
        e.asked target [.get target.ns name target.requestTimeout] lines) := by
  obtain ⟨lines, result⟩ := e.reconcile_eq target target.ns name
  cases refused : target.refusal? (e.api.get target.ns name) with
  | none => exact ⟨lines, by simp [attempt, result, refused, Target.exit?]⟩
  | some failure =>
    cases exit : failure.isExit with
    | true => exact ⟨lines, by simp [attempt, result, refused, Target.exit?, Option.filter, exit]⟩
    | false =>
      exact ⟨_, by simp [attempt, result, refused, Target.exit?, Option.filter, exit, asked, say]; rfl⟩

end Exporter

/-- What comes of a reconciliation that got the answer, and the store before and after it. -/
inductive Reconciled (clusterId : Text) (fetched : Answer) (s : Store) :
    Except Failure ReconcileResult → Store → Prop where
  /-- The request failed, not because the object is gone. -/
  | unanswered {failure : Failure} : fetched = .error failure → failure.isAbsent = false →
      Reconciled clusterId fetched s (.error failure) s
  /-- The answer is no machine set, or one of its checks fails. -/
  | rejected {failure : Failure} : fetched = .ok v → observe v = .error failure →
      Reconciled clusterId fetched s (.error failure) s
  | absent {failure : Failure} : fetched = .error failure → failure.isAbsent = true →
      Reconciled clusterId fetched s (.ok ⟨false, .zero⟩) s
  /-- The declared state is written under the identifier and the extracted instance type. -/
  | recorded {resource : MachineSet} {platform size : Text} :
      fetched = .ok v → parseMachineSet v = .ok resource →
      parseState (Resource.ofOption .text resource.spec.state) = .ok enabled →
      Provider.extract Provider.builtIn resource.spec.template = .ok (platform, .text size) →
      Store.Written (.typed (.text clusterId) (.text size)) (.bool enabled) s s' →
      Reconciled clusterId fetched s (.ok ⟨false, .zero⟩) s'

theorem Target.key_misuse? (target : Target) (clusterId size : Text)
    (identified : target.clusterId = .text clusterId) (o : Observation)
    (sized : o.instanceType = .text size) : (target.key o).misuse? = none := by
  simp [key, identified, sized, Key.misuse?, Value.isKey]

/-- Under an identifier that is a text, for every answer to the one request and every state before:
a failure leaves everything as it was, and a success changes one entry of the store at most. -/
theorem Exporter.reconcile_changes_one_entry (target : Target) (clusterId : Text)
    (identified : target.clusterId = .text clusterId) (ns name : Value) (e : Exporter) :
    Reconciled clusterId (e.api.get ns name) e.metrics.store (e.reconcile target ns name).1
      (e.reconcile target ns name).2.metrics.store ∧
    (e.reconcile target ns name).2.calls = e.calls ++ [.get ns name target.requestTimeout] ∧
    (e.reconcile target ns name).2.metrics.gauge = e.metrics.gauge ∧
    (e.reconcile target ns name).2.version = e.version ∧
    (e.reconcile target ns name).2.api = e.api := by
  obtain ⟨lines, result⟩ := e.reconcile_eq target ns name
  rw [result]
  refine ⟨?_, rfl, rfl, rfl, rfl⟩
  simp only [asked, Target.settled_get]
  cases fetched : e.api.get ns name with
  | error failure =>
    cases absent : failure.isAbsent with
    | true =>
      simpa [Target.refusal?, Target.settle?, absent] using .absent rfl absent
    | false =>
      simpa [Target.refusal?, Target.settle?, absent] using .unanswered rfl absent
  | ok v =>
    cases observed : observe v with
    | error failure =>
      simpa [Target.refusal?, Target.settle?, observed] using .rejected rfl observed
    | ok o =>
      obtain ⟨size, sized⟩ := observe_text observed
      obtain ⟨resource, parsed, state, extracted⟩ := (observe_eq_ok_iff v o).mp observed
      have usable := target.key_misuse? clusterId size identified o sized
      have written : Store.Written (.typed (.text clusterId) (.text size)) (.bool o.enabled)
          e.metrics.store (Store.put (target.key o) (.bool o.enabled) e.metrics.store) := by
        rw [Target.key, identified, sized]
        exact Store.put_written ..
      rw [sized] at extracted
      simpa [Target.refusal?, Target.settle?, observed, usable, Store.putAll] using
        .recorded rfl parsed state extracted written

/-- A machine set on AWS that declares a state and a size, as it is answered. -/
def MachineSet.onAws (name state size : Text) : Value :=
  Resource.describe Resource.wireNames
    { apiVersion := Text.ofString "machine.openshift.io/v1"
      kind := Text.ofString "ControlPlaneMachineSet"
      metadata := ⟨name, none, none⟩
      spec :=
        { state := some state
          replicas := some 3
          template :=
            { machineType := machineSectionName
              machine := some
                { spec := ⟨⟨.object [(Text.ofString "instanceType", .text size)]⟩⟩
                  failureDomains := some ⟨some Provider.aws⟩ } } } }

def Target.east : Target where
  clusterId := .text (Text.ofString "east")
  ns := .text (Text.ofString "machines")
  requestTimeout := .int 30
  watchTimeout := .int 300

/-- An exporter that has stored two sizes, and whose API has a machine set of the second. -/
def Exporter.east (state : Text) : Exporter where
  api := Api.empty.put (Text.ofString "machines") (Text.ofString "cluster")
    (.ok (MachineSet.onAws (Text.ofString "cluster") state (Text.ofString "m5.xlarge")))
  metrics :=
    { store :=
        [⟨.typed Target.east.clusterId (.text (Text.ofString "m5.large")), .bool true⟩,
          ⟨.typed Target.east.clusterId (.text (Text.ofString "m5.xlarge")), .bool false⟩]
      gauge := [] }
  version := .null
  calls := []
  lines := []

/-- The state of the second size is changed where it is. -/
theorem Exporter.reconcile_overwrites_second_entry :
    let e := Exporter.east (Text.ofString "Active")
    let after := e.reconcile Target.east Target.east.ns (.text (Text.ofString "cluster"))
    Target.east.clusterId = .text (Text.ofString "east") ∧
    after.2.metrics.store.map (·.enabled) = [.bool true, .bool true] ∧
    Reconciled (Text.ofString "east") (e.api.get Target.east.ns (.text (Text.ofString "cluster")))
      e.metrics.store after.1 after.2.metrics.store := by
  intro e after
  have changed := reconcile_changes_one_entry Target.east (Text.ofString "east") rfl Target.east.ns
    (.text (Text.ofString "cluster")) e
  exact ⟨rfl, rfl, changed.1⟩

end ControlPlaneMetrics
