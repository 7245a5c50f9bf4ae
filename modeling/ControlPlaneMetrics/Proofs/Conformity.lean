import ControlPlaneMetrics.Provider
import ControlPlaneMetrics.Proofs.Shape

/-!
The schema of the resource as a table of its fields. A value is accepted as a machine set exactly if
it is of the table's shape, and is then read as what it describes: each part as it is found under
the field's name on the wire or else under its own, and the default where there is nothing. A value
that is not of that shape is refused with all that is wrong with it, in the order of the fields.
-/
namespace ControlPlaneMetrics

open Schema

namespace Resource

def nameField : Field := .plain "name"
def nsField : Field := .plain "namespace"
def versionField : Field := .named "resourceVersion" "resource_version"
def replicasField : Field := .plain "replicas"
def apiVersionField : Field := .named "apiVersion" "api_version"
def kindField : Field := .plain "kind"
def metadataField : Field := .plain "metadata"

def objectMetaShape : Shape := .record (Text.ofString "ObjectMeta")
  [⟨nameField, true, .text⟩, ⟨nsField, false, .nullable .text⟩,
    ⟨versionField, false, .nullable .text⟩]

def providerSpecShape : Shape := .record (Text.ofString "ProviderSpec")
  [⟨valueField, false, .anything⟩]

def machineSpecShape : Shape := .record (Text.ofString "MachineSpec")
  [⟨providerSpecField, false, providerSpecShape⟩]

def failureDomainsShape : Shape := .record (Text.ofString "FailureDomains")
  [⟨platformField, false, .nullable .text⟩]

def machineShape : Shape := .record (Text.ofString "OpenShiftMachineV1Beta1MachineTemplate")
  [⟨specField, false, machineSpecShape⟩,
    ⟨failureDomainsField, false, .nullable failureDomainsShape⟩]

def templateShape : Shape := .record (Text.ofString "ControlPlaneMachineSetTemplate")
  [⟨machineTypeField, false, .text⟩, ⟨machineField, false, .nullable machineShape⟩]

def specShape : Shape := .record (Text.ofString "ControlPlaneMachineSetSpec")
  [⟨stateField, false, .nullable .text⟩, ⟨replicasField, false, .nullable .count⟩,
    ⟨templateField, false, templateShape⟩]

/-- What is asked of a value that describes a machine set. -/
def machineSetShape : Shape := .record (Text.ofString "ControlPlaneMachineSet")
  [⟨apiVersionField, false, .text⟩, ⟨kindField, false, .text⟩,
    ⟨metadataField, true, objectMetaShape⟩, ⟨specField, false, specShape⟩]

theorem machineSetShape_distinct : Distinct machineSetShape := by
  have objectMeta : Distinct objectMetaShape := by
    refine .record (by decide) ?_
    simp only [List.forall_mem_cons]
    exact ⟨.text, .nullable .text, .nullable .text, nofun⟩
  have providerSpec : Distinct providerSpecShape := by
    refine .record (by decide) ?_
    simp only [List.forall_mem_cons]
    exact ⟨.anything, nofun⟩
  have machineSpec : Distinct machineSpecShape := by
    refine .record (by decide) ?_
    simp only [List.forall_mem_cons]
    exact ⟨providerSpec, nofun⟩
  have failureDomains : Distinct failureDomainsShape := by
    refine .record (by decide) ?_
    simp only [List.forall_mem_cons]
    exact ⟨.nullable .text, nofun⟩
  have machine : Distinct machineShape := by
    refine .record (by decide) ?_
    simp only [List.forall_mem_cons]
    exact ⟨machineSpec, .nullable failureDomains, nofun⟩
  have template : Distinct templateShape := by
    refine .record (by decide) ?_
    simp only [List.forall_mem_cons]
    exact ⟨.text, .nullable machine, nofun⟩
  have spec : Distinct specShape := by
    refine .record (by decide) ?_
    simp only [List.forall_mem_cons]
    exact ⟨.nullable .text, .nullable .count, template, nofun⟩
  refine .record (by decide) ?_
  simp only [List.forall_mem_cons]
  exact ⟨.text, .text, objectMeta, spec, nofun⟩

theorem text_conforms : Conforms text .text := by
  intro v
  cases spelled : v.spelled? with
  | some t =>
    rw [(text_eq_ok_iff v t).mpr spelled]
    exact .accepted (.text spelled)
  | none =>
    cases v with
    | text t => cases spelled
    | bytes octets =>
      have unread : Encoding.utf8? octets = none := spelled
      have refused : text (.bytes octets) = .error [⟨[], .textNotUnicode⟩] :=
        scalar_eq_error (by simp only [Value.scalar, Coercion.text, unread])
      rw [refused]
      refine .flawed fun other => ⟨fun violates => ?_, ?_⟩
      · cases violates with
        | notText _ noOctets => exact absurd rfl (noOctets octets)
        | notUnicode _ => rfl
      · rintro rfl
        exact .notUnicode spelled
    | _ =>
      refine .flawed fun other => ⟨fun violates => ?_, ?_⟩
      · cases violates
        rfl
      · rintro rfl
        exact .notText (fun _ same => by cases same) (fun _ same => by cases same)

theorem nullableText_conforms : Conforms nullableText (.nullable .text) := by
  intro v
  rw [nullableText_eq]
  exact text_conforms.nullable v

theorem count_conforms :
    Conforms (Schema.scalar Coercion.nonNegativeInteger) .count := by
  intro v
  cases read : Coercion.integer v.scalar with
  | error flaw =>
    have refused : Coercion.nonNegativeInteger v.scalar = .error flaw := by
      rw [Coercion.nonNegativeInteger, read]
      rfl
    rw [scalar_eq_error refused]
    refine .flawed fun other => ⟨fun violates => ?_, fun same => same ▸ .notInteger read⟩
    cases violates with
    | notInteger refused => rw [Except.error.inj (read.symm.trans refused)]
    | belowZero passed _ => cases read.symm.trans passed
  | ok n =>
    by_cases below : n < 0
    · have refused : Coercion.nonNegativeInteger v.scalar = .error .belowZero := by
        rw [Coercion.nonNegativeInteger, read]
        exact if_neg (by omega)
      rw [scalar_eq_error refused]
      refine .flawed fun other => ⟨fun violates => ?_, fun same => same ▸ .belowZero read below⟩
      cases violates with
      | notInteger refused => cases read.symm.trans refused
      | belowZero _ _ => rfl
    · have passed := nonNegativeInteger_eq_ok_iff.mpr ⟨read, Int.not_lt.mp below⟩
      rw [scalar_eq_ok_iff.mpr passed]
      exact .accepted (.count read (Int.not_lt.mp below))

theorem nullableCount_conforms :
    Conforms (Schema.scalar (Coercion.optional Coercion.nonNegativeInteger))
      (.nullable .count) := by
  intro v
  rw [scalar_optional]
  exact count_conforms.nullable v

theorem objectMeta_conforms : Conforms objectMeta.check objectMetaShape :=
  .record _ (.map (.both (.required nameField text_conforms)
    (.both (.withDefault nsField none nullableText_conforms)
      (.withDefault versionField none nullableText_conforms))) _)

theorem providerSpec_conforms : Conforms providerSpec.check providerSpecShape := by
  have anything : Conforms (Except.ok : Value → Checked Value) .anything :=
    fun _ => .accepted .anything
  exact .record _ (.map (.withDefault valueField Value.null anything) _)

theorem machineSpec_conforms : Conforms machineSpec.check machineSpecShape :=
  .record _ (.map (.withDefault providerSpecField _ providerSpec_conforms) _)

theorem failureDomains_conforms : Conforms failureDomains.check failureDomainsShape :=
  .record _ (.map (.withDefault platformField none nullableText_conforms) _)

theorem machineTemplate_conforms : Conforms machineTemplate.check machineShape :=
  .record _ (.map (.both (.withDefault specField _ machineSpec_conforms)
    (.withDefault failureDomainsField none failureDomains_conforms.nullable)) _)

theorem machineSetTemplate_conforms : Conforms machineSetTemplate.check templateShape :=
  .record _ (.map (.both (.withDefault machineTypeField _ text_conforms)
    (.withDefault machineField none machineTemplate_conforms.nullable)) _)

theorem machineSetSpec_conforms : Conforms machineSetSpec.check specShape :=
  .record _ (.map (.both (.withDefault stateField none nullableText_conforms)
    (.both (.withDefault replicasField none nullableCount_conforms)
      (.withDefault templateField _ machineSetTemplate_conforms))) _)

theorem machineSet_conforms : Conforms machineSet.check machineSetShape :=
  .record _ (.map (.both (.withDefault apiVersionField _ text_conforms)
    (.both (.withDefault kindField _ text_conforms)
      (.both (.required metadataField objectMeta_conforms)
        (.withDefault specField _ machineSetSpec_conforms)))) _)

/-! ### What is read -/

/-- What is read as an integer. -/
def count? (v : Value) : Option Int := (Coercion.integer v.scalar).toOption

/-- The failure domains of a template's machine section. -/
def domainsOf (template : MachineSetTemplate) : Option FailureDomains :=
  template.machine.bind (·.failureDomains)

/-- Each part of the machine set is what the value has for it, or a default if there is nothing. -/
structure Describes (v : Value) (m : MachineSet) : Prop where
  apiVersion : m.apiVersion = ((v.along? [apiVersionField]).bind Value.spelled?).getD
    (Text.ofString "machine.openshift.io/v1")
  kind : m.kind = ((v.along? [kindField]).bind Value.spelled?).getD
    (Text.ofString "ControlPlaneMachineSet")
  name : some m.metadata.name = (v.along? [metadataField, nameField]).bind Value.spelled?
  ns : m.metadata.ns = (v.along? [metadataField, nsField]).bind Value.spelled?
  version : m.metadata.resourceVersion =
    (v.along? [metadataField, versionField]).bind Value.spelled?
  replicas : m.spec.replicas = (v.along? [specField, replicasField]).bind count?
  domains : (domainsOf m.spec.template).isSome =
    (v.along? [specField, templateField, machineField, failureDomainsField]).any (!·.isNull)
  spec : Declares v m.spec

theorem template_ext {first second : MachineSetTemplate}
    (machineType : first.machineType = second.machineType)
    (machine : first.machine.isSome = second.machine.isSome)
    (domains : (domainsOf first).isSome = (domainsOf second).isSome)
    (same : platformOf first = platformOf second) (blob : blobOf first = blobOf second) :
    first = second := by
  obtain ⟨type, machine?⟩ := first
  obtain ⟨type', machine?'⟩ := second
  obtain rfl : type = type' := machineType
  rcases machine? with _ | ⟨⟨⟨value⟩⟩, domains?⟩ <;>
  rcases machine?' with _ | ⟨⟨⟨value'⟩⟩, domains?'⟩
  · rfl
  · cases machine
  · cases machine
  · obtain rfl : value = value' := blob
    rcases domains? with _ | ⟨declared⟩ <;> rcases domains?' with _ | ⟨declared'⟩
    · rfl
    · cases domains
    · cases domains
    · obtain ⟨platform⟩ := declared
      obtain ⟨platform'⟩ := declared'
      cases same
      rfl

/-- A value describes one machine set at most. -/
theorem Describes.unique {v : Value} {m other : MachineSet} (describes : Describes v m)
    (describes' : Describes v other) : other = m := by
  have template : other.spec.template = m.spec.template :=
    template_ext (describes'.spec.machineType.trans describes.spec.machineType.symm)
      (describes'.spec.machine.trans describes.spec.machine.symm)
      (describes'.domains.trans describes.domains.symm)
      (describes'.spec.platform.trans describes.spec.platform.symm)
      (describes'.spec.blob.trans describes.spec.blob.symm)
  obtain ⟨apiVersion, kind, ⟨name, ns, version⟩, ⟨state, replicas, _⟩⟩ := m
  obtain ⟨apiVersion', kind', ⟨name', ns', version'⟩, ⟨state', replicas', _⟩⟩ := other
  obtain rfl : apiVersion' = apiVersion := describes'.apiVersion.trans describes.apiVersion.symm
  obtain rfl : kind' = kind := describes'.kind.trans describes.kind.symm
  obtain rfl : name' = name := Option.some.inj (describes'.name.trans describes.name.symm)
  obtain rfl : ns' = ns := describes'.ns.trans describes.ns.symm
  obtain rfl : version' = version := describes'.version.trans describes.version.symm
  obtain rfl : state' = state := describes'.spec.state.trans describes.spec.state.symm
  obtain rfl : replicas' = replicas := describes'.replicas.trans describes.replicas.symm
  cases template
  rfl

theorem text_reads_or (default : Text) :
    Reads text id [] fun found => (found.bind Value.spelled?).getD default := by
  intro v t checked
  simp [Value.along?, (text_eq_ok_iff v t).mp checked]

theorem text_reads_some : Reads text some [] (·.bind Value.spelled?) := by
  intro v t checked
  exact ((text_eq_ok_iff v t).mp checked).symm

theorem nullableCount_reads : Reads
    (Schema.scalar (Coercion.optional Coercion.nonNegativeInteger)) id [] (·.bind count?) := by
  intro v n? checked
  rw [scalar_optional] at checked
  rcases nullable_eq_ok checked with ⟨rfl, rfl⟩ | ⟨_, n, inner, rfl⟩
  · rfl
  · obtain ⟨read, _⟩ := nonNegativeInteger_eq_ok_iff.mp (scalar_eq_ok_iff.mp inner)
    simp [Value.along?, count?, read, Except.toOption]

theorem machineTemplate_reads_domains : Reads machineTemplate.check (·.failureDomains.isSome)
    [failureDomainsField] (·.any (!·.isNull)) :=
  .record (.map (.second Option.isSome (.withDefault _ rfl (.nullable_isSome _))))

theorem template_reads_domains : Reads machineSetTemplate.check (fun t => (domainsOf t).isSome)
    [machineField, failureDomainsField] (·.any (!·.isNull)) :=
  .record (.map (.second
    (fun machine : Option MachineTemplate => (machine.bind (·.failureDomains)).isSome)
    (.withDefault _ rfl (.nullable rfl machineTemplate_reads_domains))))

theorem spec_reads_replicas : Reads machineSetSpec.check MachineSetSpec.replicas [replicasField]
    (·.bind count?) :=
  .record (.map (.second (fun rest : Option Int × MachineSetTemplate => rest.1)
    (.first id (.withDefault _ rfl nullableCount_reads))))

theorem machineSet_reads_metadata {read : ObjectMeta → β} {path : List Field}
    {sense : Option Value → β} (reads : Reads objectMeta.check read path sense) :
    Reads machineSet.check (fun resource => read resource.metadata) (metadataField :: path) sense :=
  .record (.map (.second (fun rest : Text × ObjectMeta × MachineSetSpec => read rest.2.1)
    (.second (fun rest : ObjectMeta × MachineSetSpec => read rest.1)
      (.first read (.required _ reads)))))

theorem meta_reads_name : Reads objectMeta.check (fun m => some m.name) [nameField]
    (·.bind Value.spelled?) :=
  .record (.map (.first some (.required _ text_reads_some)))

theorem meta_reads_ns : Reads objectMeta.check ObjectMeta.ns [nsField] (·.bind Value.spelled?) :=
  .record (.map (.second (fun rest : Option Text × Option Text => rest.1)
    (.first id (.withDefault _ rfl nullableText_reads))))

theorem meta_reads_version : Reads objectMeta.check ObjectMeta.resourceVersion [versionField]
    (·.bind Value.spelled?) :=
  .record (.map (.second (fun rest : Option Text × Option Text => rest.2)
    (.second id (.withDefault _ rfl nullableText_reads))))

theorem machineSet_reads_apiVersion : Reads machineSet.check MachineSet.apiVersion [apiVersionField]
    fun found => (found.bind Value.spelled?).getD (Text.ofString "machine.openshift.io/v1") :=
  .record (.map (.first id (.withDefault _ rfl (text_reads_or _))))

theorem machineSet_reads_kind : Reads machineSet.check MachineSet.kind [kindField]
    fun found => (found.bind Value.spelled?).getD (Text.ofString "ControlPlaneMachineSet") :=
  .record (.map (.second (fun rest : Text × ObjectMeta × MachineSetSpec => rest.1)
    (.first id (.withDefault _ rfl (text_reads_or _)))))

theorem mapError_eq_ok_iff {outcome : Except ε α} {wrap : ε → δ} {a : α} :
    outcome.mapError wrap = .ok a ↔ outcome = .ok a := by
  cases outcome with
  | error e =>
    apply iff_of_false
    · intro passed
      cases passed
    · intro passed
      cases passed
  | ok b =>
    constructor
    · intro passed
      cases passed
      rfl
    · intro passed
      cases passed
      rfl

theorem Model.validate_eq_ok_iff {model : Model α} {v : Value} {a : α} :
    model.validate v = .ok a ↔ model.check v = .ok a :=
  mapError_eq_ok_iff

/-- What the schema makes of a value is what the value describes. -/
theorem describes_of_check {v : Value} {m : MachineSet} (checked : machineSet.check v = .ok m) :
    Describes v m := by
  constructor
  · exact machineSet_reads_apiVersion v m checked
  · exact machineSet_reads_kind v m checked
  · exact machineSet_reads_metadata meta_reads_name v m checked
  · exact machineSet_reads_metadata meta_reads_ns v m checked
  · exact machineSet_reads_metadata meta_reads_version v m checked
  · exact machineSet_reads_spec rfl spec_reads_replicas v m checked
  · exact machineSet_reads_spec rfl (spec_reads_template rfl template_reads_domains) v m checked
  · exact declares_of_validate (Model.validate_eq_ok_iff.mpr checked)

end Resource

open Resource

theorem parseMachineSet_eq_ok_iff {v : Value} {m : MachineSet} :
    parseMachineSet v = .ok m ↔ machineSet.check v = .ok m := by
  rw [← Model.validate_eq_ok_iff, parseMachineSet]
  exact mapError_eq_ok_iff

/-- For every value. It is accepted exactly if it is of the shape of a machine set, and then read as
the one machine set that it describes; otherwise it is refused as an invalid resource, with exactly
the problems that it has, in the order of the fields and each at a place of its own. -/
theorem parsing_decides_shape (v : Value) :
    (Fits machineSetShape v ∧ ∃ m, parseMachineSet v = .ok m ∧ Describes v m ∧
      ∀ other, Describes v other → other = m) ∨
    (¬ Fits machineSetShape v ∧ ∃ problems,
      parseMachineSet v =
        .error (.invalidResource ⟨Text.ofString "ControlPlaneMachineSet", problems⟩ v) ∧
      (∀ problem, problem ∈ problems ↔ Violates machineSetShape v problem) ∧
      (problems.map (·.location)).Pairwise (Precedes machineSetShape) ∧
      (problems.map (·.location)).Nodup) := by
  rcases (machineSet_conforms v).split with
    ⟨m, checked, fits⟩ | ⟨problems, checked, some, lists⟩
  · have describes := describes_of_check checked
    exact .inl ⟨fits, m, parseMachineSet_eq_ok_iff.mpr checked, describes,
      fun other describes' => describes.unique describes'⟩
  · refine .inr ⟨lists.not_fits some, problems, ?_, lists.complete, lists.ordered,
      nodup_of_precedes machineSetShape_distinct lists.ordered⟩
    rw [parseMachineSet, Model.validate, checked]
    rfl

/-- A name that is a number, a specification that is null and no text for the kind: the kind comes
first. -/
example :
    let v : Value := .object [(Text.ofString "spec", .null),
      (Text.ofString "metadata", .object [(Text.ofString "name", .int 1)]),
      (Text.ofString "kind", .bool true)]
    parseMachineSet v = .error (.invalidResource ⟨Text.ofString "ControlPlaneMachineSet",
      [⟨[Text.ofString "kind"], .notText⟩,
        ⟨[Text.ofString "metadata", Text.ofString "name"], .notText⟩,
        ⟨[Text.ofString "spec"], .notRecord (Text.ofString "ControlPlaneMachineSetSpec")⟩]⟩ v) := rfl

end ControlPlaneMetrics
