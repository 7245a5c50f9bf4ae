import ControlPlaneMetrics.Reconcile
import ControlPlaneMetrics.Proofs.Conformity

/-!
A machine set that was read is read again from its own description, whichever of its two names a
field is listed under. What the first reading has made of numbers in texts, of octets and of fields
that were missing is read again as it is, and so a description is observed as the value itself was.
-/
namespace ControlPlaneMetrics

open Schema

namespace Schema

theorem Checked.both_ok {x : Checked α} {y : Checked β} {a : α} {b : β} (first : x = .ok a)
    (second : y = .ok b) : Checked.both x y = .ok (a, b) := by
  rw [first, second, Checked.both]

theorem Checked.map_ok {x : Checked α} {a : α} (f : α → β) (passed : x = .ok a) :
    x.map f = .ok (f a) := by
  rw [passed]
  rfl

namespace Field

theorem mem_names {field : Field} {name : Text} :
    name ∈ field.names ↔ name = field.wire ∨ name = field.own := by
  simp [names]

variable {field : Field} {members : List (Text × Value)} {name : Text} {v : Value}
  {check : Value → Checked α} {a : α}

theorem withDefault_found (default : α) (found : field.find? members = some (name, v))
    (checked : check v = .ok a) : field.withDefault default check members = .ok a := by
  simp only [withDefault, read, found, checked, Checked.under]

theorem required_found (found : field.find? members = some (name, v))
    (checked : check v = .ok a) : field.required check members = .ok a := by
  simp only [required, read, found, checked, Checked.under]

end Field

end Schema

namespace Resource

/-- Each field is listed under one of its two names. -/
structure Names.Known (names : Names) : Prop where
  apiVersion : names.apiVersion ∈ apiVersionField.names
  resourceVersion : names.resourceVersion ∈ versionField.names
  providerSpec : names.providerSpec ∈ providerSpecField.names
  failureDomains : names.failureDomains ∈ failureDomainsField.names
  machineType : names.machineType ∈ machineTypeField.names
  machine : names.machine ∈ machineField.names

theorem ownNames_known : ownNames.Known := by
  constructor <;> exact Field.mem_names.mpr (.inr rfl)

theorem wireNames_known : wireNames.Known := by
  constructor <;> exact Field.mem_names.mpr (.inl rfl)

theorem text_describe (t : Text) : text (.text t) = .ok t := rfl

theorem nullableText_describe (t : Option Text) : nullableText (ofOption .text t) = .ok t := by
  cases t <;> rfl

theorem nullable_describe {check : Value → Checked α} {describe : α → Value}
    (checked : ∀ a, check (describe a) = .ok a) (object : ∀ a, (describe a).isObject = true)
    (a? : Option α) : nullable check (ofOption describe a?) = .ok a? := by
  cases a? with
  | none => rfl
  | some a =>
    have split : nullable check (describe a) = (check (describe a)).map some := by
      have := object a
      cases described : describe a <;> first | rfl | (rw [described] at this; cases this)
    rw [ofOption, split, checked a]
    rfl

theorem nullableCount_describe {n? : Option Int} (count : ∀ n, n? = some n → 0 ≤ n) :
    Schema.scalar (Coercion.optional Coercion.nonNegativeInteger) (ofOption .int n?) = .ok n? := by
  cases n? with
  | none => rfl
  | some n =>
    have passed : Coercion.nonNegativeInteger (.int n) = .ok n :=
      nonNegativeInteger_eq_ok_iff.mpr ⟨rfl, count n rfl⟩
    apply scalar_eq_ok_iff.mpr
    simp only [ofOption, Value.scalar, Coercion.optional, passed]
    rfl

section Describe

variable {names : Names} (known : names.Known)
include known

theorem objectMeta_describe (m : ObjectMeta) : objectMeta.check (describeMeta names m) = .ok m := by
  rcases Field.mem_names.mp known.resourceVersion with listed | listed
  all_goals
    simp only [describeMeta, listed]
    obtain ⟨name, ns, version⟩ := m
    cases ns <;> cases version <;> rfl

theorem machineSpec_describe (m : MachineSpec) :
    machineSpec.check (describeMachineSpec names m) = .ok m := by
  rcases Field.mem_names.mp known.providerSpec with listed | listed
  all_goals
    simp only [describeMachineSpec, listed]
    rfl

theorem machineTemplate_describe (m : MachineTemplate) :
    machineTemplate.check (describeMachine names m) = .ok m := by
  have spec := machineSpec_describe known m.spec
  have domains : nullable failureDomains.check (ofOption describeFailureDomains m.failureDomains) =
      .ok m.failureDomains := by
    refine nullable_describe (fun f => ?_) (fun _ => rfl) m.failureDomains
    obtain ⟨platform⟩ := f
    cases platform <;> rfl
  rcases Field.mem_names.mp known.failureDomains with listed | listed
  all_goals
    simp only [describeMachine, listed]
    exact Checked.map_ok _ (Checked.both_ok (Field.withDefault_found _ rfl spec)
      (Field.withDefault_found _ rfl domains))

theorem machineSetTemplate_describe (t : MachineSetTemplate) :
    machineSetTemplate.check (describeTemplate names t) = .ok t := by
  have machine : nullable machineTemplate.check (ofOption (describeMachine names) t.machine) =
      .ok t.machine :=
    nullable_describe (machineTemplate_describe known) (fun _ => rfl) t.machine
  rcases Field.mem_names.mp known.machineType with listed | listed
  all_goals
    rcases Field.mem_names.mp known.machine with listed' | listed'
    all_goals
      simp only [describeTemplate, listed, listed']
      exact Checked.map_ok _ (Checked.both_ok
        (Field.withDefault_found _ rfl (text_describe t.machineType))
        (Field.withDefault_found _ rfl machine))

theorem machineSetSpec_describe {s : MachineSetSpec} (count : ∀ n, s.replicas = some n → 0 ≤ n) :
    machineSetSpec.check (describeSpec names s) = .ok s :=
  Checked.map_ok _ (Checked.both_ok
    (Field.withDefault_found _ rfl (nullableText_describe s.state))
    (Checked.both_ok (Field.withDefault_found _ rfl (nullableCount_describe count))
      (Field.withDefault_found _ rfl (machineSetTemplate_describe known s.template))))

theorem machineSet_describe {m : MachineSet} (count : ∀ n, m.spec.replicas = some n → 0 ≤ n) :
    machineSet.check (describe names m) = .ok m := by
  rcases Field.mem_names.mp known.apiVersion with listed | listed
  all_goals
    simp only [describe, listed]
    exact Checked.map_ok _ (Checked.both_ok
      (Field.withDefault_found _ rfl (text_describe m.apiVersion))
      (Checked.both_ok (Field.withDefault_found _ rfl (text_describe m.kind))
        (Checked.both_ok (Field.required_found rfl (objectMeta_describe known m.metadata))
          (Field.withDefault_found _ rfl (machineSetSpec_describe known count)))))

end Describe

/-- A machine set that was read has no fewer than zero machines. -/
theorem count_of_check {v : Value} {m : MachineSet} (checked : machineSet.check v = .ok m) :
    ∀ n, m.spec.replicas = some n → 0 ≤ n := by
  have reads : Reads (Schema.scalar (Coercion.optional Coercion.nonNegativeInteger))
      (fun n? => ∀ n, n? = some n → 0 ≤ n) [] fun _ => True := by
    intro v n? checked
    rw [scalar_optional] at checked
    rcases nullable_eq_ok checked with ⟨rfl, rfl⟩ | ⟨_, n, inner, rfl⟩
    · simp
    · have := (nonNegativeInteger_eq_ok_iff.mp (scalar_eq_ok_iff.mp inner)).2
      simpa using this
  have spec : Reads machineSetSpec.check (fun s => ∀ n, s.replicas = some n → 0 ≤ n)
      [replicasField] fun _ => True :=
    .record (.map (.second (fun rest : Option Int × MachineSetTemplate =>
      ∀ n, rest.1 = some n → 0 ≤ n) (.first _ (.withDefault _ (by simp) reads))))
  exact of_eq_true (machineSet_reads_spec (by simp) spec v m checked)

end Resource

open Resource

/-- For every value that is read as a machine set: the description of that set under its fields' own
names, their names on the wire or any mixture is read as the same set again. Observing it gives what
observing the value gives, and so do the state and the instance type by whatever decoders there
are. -/
theorem description_is_read_again (v : Value) (m : MachineSet)
    (parsed : parseMachineSet v = .ok m) :
    ownNames.Known ∧ wireNames.Known ∧ ∀ names : Names, names.Known →
      parseMachineSet (describe names m) = .ok m ∧
      observe (describe names m) = observe v ∧
      ((parseMachineSet (describe names m)).bind fun again =>
          parseState (ofOption .text again.spec.state)) =
        parseState (ofOption .text m.spec.state) ∧
      ∀ registry, ((parseMachineSet (describe names m)).bind fun again =>
          Provider.extract registry again.spec.template) =
        Provider.extract registry m.spec.template := by
  refine ⟨ownNames_known, wireNames_known, fun names known => ?_⟩
  have count := count_of_check (parseMachineSet_eq_ok_iff.mp parsed)
  have again : parseMachineSet (describe names m) = .ok m :=
    parseMachineSet_eq_ok_iff.mpr (machineSet_describe known count)
  refine ⟨again, ?_, ?_, fun registry => ?_⟩
  · rw [observe, observe, again, parsed]
  · rw [again]
    rfl
  · rw [again]
    rfl

/-- A name in octets, a number in a text, and names of both kinds. -/
def roughMachineSet : Value :=
  .object [(Text.ofString "metadata", .object [
      (Text.ofString "name", .bytes [0x63, 0xc3, 0xa9]),
      (Text.ofString "resource_version", .text (Text.ofString "7"))]),
    (Text.ofString "spec", .object [
      (Text.ofString "replicas", .text (Text.ofString " +0_3.0")),
      (Text.ofString "template", .object [
        (Text.ofString "machineType", .text (Text.ofString "OpenShiftMachineV1Beta1Machine")),
        (Text.ofString "openshift_machine_v1beta1_machine", .object [
          (Text.ofString "failure_domains", .null)])])])]

def readMachineSet : MachineSet where
  apiVersion := Text.ofString "machine.openshift.io/v1"
  kind := Text.ofString "ControlPlaneMachineSet"
  metadata := ⟨Text.ofString "cé", none, some (Text.ofString "7")⟩
  spec := ⟨none, some 3, ⟨Text.ofString "OpenShiftMachineV1Beta1Machine",
    some ⟨⟨⟨.null⟩⟩, none⟩⟩⟩

set_option maxRecDepth 2000 in
theorem rough_description_is_read_again : parseMachineSet roughMachineSet = .ok readMachineSet ∧
    parseMachineSet (describe ownNames readMachineSet) = .ok readMachineSet ∧
    parseMachineSet (describe wireNames readMachineSet) = .ok readMachineSet := by
  have parsed : parseMachineSet roughMachineSet = .ok readMachineSet := by rfl
  obtain ⟨own, wire, again⟩ := description_is_read_again _ _ parsed
  exact ⟨parsed, (again _ own).1, (again _ wire).1⟩

end ControlPlaneMetrics
