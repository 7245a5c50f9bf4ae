import ControlPlaneMetrics.Resource.Schema

/-!
What a value declares of a machine set, read straight off its members. Each thing that a metric
needs is found by going from member to member, whatever else the value holds. A value that the
schema accepts is read by the schema in the same way.
-/
namespace ControlPlaneMetrics

open Schema

/-- The field's member: under its name on the wire, or else under its own. -/
def Schema.Field.of? (field : Field) (v : Value) : Option Value :=
  (v.member? field.wire).or (v.member? field.own)

namespace Value

/-- What is found by going from member to member. -/
def along? : List Field → Value → Option Value
  | [], v => some v
  | field :: path, v => (field.of? v).bind (along? path)

/-- The text that a text or its octets spell. -/
def spelled? : Value → Option Text
  | text t => some t
  | bytes octets => Encoding.utf8? octets
  | _ => none

def isNull : Value → Bool
  | null => true
  | _ => false

def isObject : Value → Bool
  | object _ => true
  | _ => false

theorem eq_null_of_isNull {v : Value} (isNull : v.isNull = true) : v = null := by
  cases v <;> first | rfl | cases isNull

end Value

/-! ## Checks that read along a path -/

namespace Schema

theorem Field.find?_map_snd (field : Field) (members : List (Text × Value)) :
    (field.find? members).map (·.2) = field.of? (.object members) := by
  cases wire : lookup? field.wire members with
  | some v => simp [find?, of?, Value.member?, wire]
  | none =>
    cases own : lookup? field.own members <;> simp [find?, of?, Value.member?, wire, own]

theorem nullable_eq_ok {check : Value → Checked α} {v : Value} {o : Option α}
    (checked : nullable check v = .ok o) :
    (v = .null ∧ o = none) ∨ (v.isNull = false ∧ ∃ a, check v = .ok a ∧ o = some a) := by
  have split : nullable check v = if v.isNull then .ok none else (check v).map some := by
    cases v <;> rfl
  rw [split] at checked
  cases null : v.isNull with
  | true =>
    simp only [null, if_true, Except.ok.injEq] at checked
    exact .inl ⟨Value.eq_null_of_isNull null, checked.symm⟩
  | false =>
    cases inner : check v with
    | error problems => simp [null, inner, Except.map] at checked
    | ok a =>
      simp only [null, inner, Except.map, Bool.false_eq_true, if_false, Except.ok.injEq] at checked
      exact .inr ⟨rfl, a, rfl, checked.symm⟩

/-- Of what the check makes of a value, `read` gives the same as `sense` gives of what the value has
along the path. -/
def Reads (check : Value → Checked α) (read : α → β) (path : List Field)
    (sense : Option Value → β) : Prop :=
  ∀ v a, check v = .ok a → read a = sense (v.along? path)

/-- The same of a check of an object's members. -/
def ReadsMembers (check : List (Text × Value) → Checked α) (read : α → β) (path : List Field)
    (sense : Option Value → β) : Prop :=
  ∀ members a, check members = .ok a → read a = sense ((Value.object members).along? path)

namespace ReadsMembers

theorem withDefault {check : Value → Checked α} {read : α → β} {path : List Field}
    {sense : Option Value → β} (field : Field) {default : α} (absent : read default = sense none)
    (present : Reads check read path sense) :
    ReadsMembers (field.withDefault default check) read (field :: path) sense := by
  intro members a checked
  rw [Value.along?, ← field.find?_map_snd]
  unfold Field.withDefault Field.read at checked
  cases found : field.find? members with
  | none =>
    rw [found] at checked
    cases checked
    exact absent
  | some entry =>
    obtain ⟨name, v⟩ := entry
    simp only [found] at checked
    cases inner : check v with
    | error problems => simp [inner, Checked.under] at checked
    | ok b =>
      simp only [inner, Checked.under, Except.ok.injEq] at checked
      exact checked ▸ present v b inner

theorem map {check : List (Text × Value) → Checked α} {f : α → γ} {read : γ → β}
    {path : List Field} {sense : Option Value → β}
    (reads : ReadsMembers check (fun a => read (f a)) path sense) :
    ReadsMembers (fun members => (check members).map f) read path sense := by
  intro members c checked
  cases inner : check members with
  | error problems => simp [inner, Except.map] at checked
  | ok a =>
    simp only [inner, Except.map, Except.ok.injEq] at checked
    exact checked ▸ reads members a inner

theorem both_eq_ok {x : Checked α} {y : Checked γ} {pair : α × γ}
    (checked : Checked.both x y = .ok pair) : x = .ok pair.1 ∧ y = .ok pair.2 := by
  cases x <;> cases y <;> cases checked
  exact ⟨rfl, rfl⟩

theorem first {check : List (Text × Value) → Checked α} {other : List (Text × Value) → Checked γ}
    {path : List Field} {sense : Option Value → β} (read : α → β)
    (reads : ReadsMembers check read path sense) :
    ReadsMembers (fun members => Checked.both (check members) (other members))
      (fun pair => read pair.1) path sense :=
  fun members _ checked => reads members _ (both_eq_ok checked).1

theorem second {check : List (Text × Value) → Checked α} {other : List (Text × Value) → Checked γ}
    {path : List Field} {sense : Option Value → β} (read : γ → β)
    (reads : ReadsMembers other read path sense) :
    ReadsMembers (fun members => Checked.both (check members) (other members))
      (fun pair => read pair.2) path sense :=
  fun members _ checked => reads members _ (both_eq_ok checked).2

end ReadsMembers

namespace Reads

theorem record {name : Text} {check : List (Text × Value) → Checked α} {read : α → β}
    {path : List Field} {sense : Option Value → β} (reads : ReadsMembers check read path sense) :
    Reads (Schema.record name check) read path sense := by
  intro v a checked
  cases v with
  | object members => exact reads members a checked
  | _ => cases checked

/-- Null has nothing along a path, and is read as if the value were absent. -/
theorem nullable {check : Value → Checked α} {read : Option α → β} {field : Field}
    {path : List Field} {sense : Option Value → β} (absent : read none = sense none)
    (reads : Reads check (fun a => read (some a)) (field :: path) sense) :
    Reads (Schema.nullable check) read (field :: path) sense := by
  intro v o checked
  rcases nullable_eq_ok checked with ⟨rfl, rfl⟩ | ⟨_, a, inner, rfl⟩
  · exact absent
  · exact reads v a inner

/-- Whether there is a value at all, null not counted. -/
theorem nullable_isSome (check : Value → Checked α) :
    Reads (Schema.nullable check) Option.isSome [] (·.any (!·.isNull)) := by
  intro v o checked
  rcases nullable_eq_ok checked with ⟨rfl, rfl⟩ | ⟨present, a, _, rfl⟩
  · rfl
  · simp [Value.along?, present]

end Reads

end Schema

/-! ## The resource -/

namespace Resource

def specField : Field := .plain "spec"
def stateField : Field := .plain "state"
def templateField : Field := .plain "template"
def machineTypeField : Field := .named "machineType" "machine_type"
def failureDomainsField : Field := .named "failureDomains" "failure_domains"
def platformField : Field := .plain "platform"
def providerSpecField : Field := .named "providerSpec" "provider_spec"
def valueField : Field := .plain "value"

theorem text_eq_ok_iff (v : Value) (t : Text) : text v = .ok t ↔ v.spelled? = some t := by
  cases v with
  | text s => simp [text, scalar, Value.scalar, Coercion.text, Value.spelled?]
  | bytes octets =>
    cases decoded : Encoding.utf8? octets <;>
      simp [text, scalar, Value.scalar, Coercion.text, Value.spelled?, decoded, Checked.flawed]
  | _ => simp [text, scalar, Value.scalar, Coercion.text, Value.spelled?, Checked.flawed]

theorem text_reads : Reads text id [] fun found => (found.bind Value.spelled?).getD [] := by
  intro v t checked
  simp [Value.along?, (text_eq_ok_iff v t).mp checked]

theorem nullableText_eq (v : Value) : nullableText v = nullable text v := by
  cases v with
  | bytes octets =>
    cases decoded : Encoding.utf8? octets <;>
      simp [nullableText, nullable, text, scalar, Value.scalar, Coercion.optional, Coercion.text,
        decoded, Checked.flawed, Except.map]
  | _ =>
    simp [nullableText, nullable, text, scalar, Value.scalar, Coercion.optional, Coercion.text,
      Checked.flawed, Except.map]

theorem nullableText_reads : Reads nullableText id [] (·.bind Value.spelled?) := by
  intro v o checked
  rw [nullableText_eq] at checked
  rcases nullable_eq_ok checked with ⟨rfl, rfl⟩ | ⟨_, t, inner, rfl⟩
  · rfl
  · exact ((text_eq_ok_iff v t).mp inner).symm

theorem providerSpec_reads :
    Reads providerSpec.check ProviderSpec.value [valueField] (·.getD .null) :=
  .record (.map (.withDefault _ rfl fun _ _ checked => by cases checked; rfl))

theorem machineSpec_reads : Reads machineSpec.check (·.providerSpec.value)
    [providerSpecField, valueField] (·.getD .null) :=
  .record (.map (.withDefault _ rfl providerSpec_reads))

theorem failureDomains_reads :
    Reads failureDomains.check FailureDomains.platform [platformField] (·.bind Value.spelled?) :=
  .record (.map (.withDefault _ rfl nullableText_reads))

theorem machineTemplate_reads_blob : Reads machineTemplate.check (·.spec.providerSpec.value)
    [specField, providerSpecField, valueField] (·.getD .null) :=
  .record (.map (.first (fun spec : MachineSpec => spec.providerSpec.value)
    (.withDefault _ rfl machineSpec_reads)))

theorem machineTemplate_reads_platform : Reads machineTemplate.check MachineTemplate.platform
    [failureDomainsField, platformField] (·.bind Value.spelled?) :=
  .record (.map (.second (fun domains : Option FailureDomains => domains.bind (·.platform))
    (.withDefault _ rfl (.nullable rfl failureDomains_reads))))

/-- The platform that a template's machine section declares. -/
def platformOf (template : MachineSetTemplate) : Option Text :=
  template.machine.bind MachineTemplate.platform

/-- The blob of a template's machine section; null if there is no such section. -/
def blobOf (template : MachineSetTemplate) : Value :=
  template.machine.elim .null (·.spec.providerSpec.value)

theorem template_reads_machineType : Reads machineSetTemplate.check MachineSetTemplate.machineType
    [machineTypeField] fun found => (found.bind Value.spelled?).getD [] :=
  .record (.map (.first id (.withDefault _ rfl text_reads)))

theorem template_reads_machine : Reads machineSetTemplate.check (·.machine.isSome)
    [machineField] (·.any (!·.isNull)) :=
  .record (.map (.second Option.isSome (.withDefault _ rfl (.nullable_isSome _))))

theorem template_reads_platform : Reads machineSetTemplate.check platformOf
    [machineField, failureDomainsField, platformField] (·.bind Value.spelled?) :=
  .record (.map (.second (fun machine : Option MachineTemplate => machine.bind (·.platform))
    (.withDefault _ rfl (.nullable rfl machineTemplate_reads_platform))))

theorem template_reads_blob : Reads machineSetTemplate.check blobOf
    [machineField, specField, providerSpecField, valueField] (·.getD .null) :=
  .record (.map (.second
    (fun machine : Option MachineTemplate => machine.elim Value.null (·.spec.providerSpec.value))
    (.withDefault _ rfl (.nullable rfl machineTemplate_reads_blob))))

/-- What the template has along a path, the specification has behind its template. -/
theorem spec_reads_template {read : MachineSetTemplate → β} {path : List Field}
    {sense : Option Value → β} (absent : read ⟨[], none⟩ = sense none)
    (reads : Reads machineSetTemplate.check read path sense) :
    Reads machineSetSpec.check (fun spec => read spec.template) (templateField :: path) sense :=
  .record (.map (.second (fun rest : Option Int × MachineSetTemplate => read rest.2)
    (.second read (.withDefault _ absent reads))))

theorem spec_reads_state : Reads machineSetSpec.check MachineSetSpec.state [stateField]
    (·.bind Value.spelled?) :=
  .record (.map (.first id (.withDefault _ rfl nullableText_reads)))

theorem machineSet_reads_spec {read : MachineSetSpec → β} {path : List Field}
    {sense : Option Value → β} (absent : read ⟨none, none, ⟨[], none⟩⟩ = sense none)
    (reads : Reads machineSetSpec.check read path sense) :
    Reads machineSet.check (fun resource => read resource.spec) (specField :: path) sense :=
  .record (.map (.second (fun rest : Text × ObjectMeta × MachineSetSpec => read rest.2.2)
    (.second (fun rest : ObjectMeta × MachineSetSpec => read rest.2)
      (.second read (.withDefault _ absent reads)))))

end Resource

open Resource

namespace Declared

/-- The declared state, if it is a text. -/
def state (v : Value) : Option Text :=
  (v.along? [specField, stateField]).bind Value.spelled?

/-- The declared machine type; empty if there is none. -/
def machineType (v : Value) : Text :=
  ((v.along? [specField, templateField, machineTypeField]).bind Value.spelled?).getD []

/-- Whether there is a machine section that is not null. -/
def hasMachine (v : Value) : Bool :=
  (v.along? [specField, templateField, machineField]).any (!·.isNull)

/-- The declared platform, if it is a text. -/
def platform (v : Value) : Option Text :=
  (v.along? [specField, templateField, machineField, failureDomainsField, platformField]).bind
    Value.spelled?

/-- The provider's blob; null if there is none. -/
def blob (v : Value) : Value :=
  (v.along? [specField, templateField, machineField, specField, providerSpecField,
    valueField]).getD .null

end Declared

/-- The specification is what the value declares. -/
structure Declares (v : Value) (spec : MachineSetSpec) : Prop where
  state : spec.state = Declared.state v
  machineType : spec.template.machineType = Declared.machineType v
  machine : spec.template.machine.isSome = Declared.hasMachine v
  platform : platformOf spec.template = Declared.platform v
  blob : blobOf spec.template = Declared.blob v

/-- The schema takes from a value that it accepts what the value declares, and nothing else. -/
theorem declares_of_validate {v : Value} {resource : MachineSet}
    (valid : machineSet.validate v = .ok resource) : Declares v resource.spec := by
  have checked : machineSet.check v = .ok resource := by
    rw [Model.validate] at valid
    cases outcome : machineSet.check v with
    | error problems => rw [outcome] at valid; cases valid
    | ok found => rw [outcome] at valid; cases valid; rfl
  constructor
  · exact machineSet_reads_spec rfl spec_reads_state v resource checked
  · exact machineSet_reads_spec rfl (spec_reads_template rfl template_reads_machineType) v resource
      checked
  · exact machineSet_reads_spec rfl (spec_reads_template rfl template_reads_machine) v resource
      checked
  · exact machineSet_reads_spec rfl (spec_reads_template rfl template_reads_platform) v resource
      checked
  · exact machineSet_reads_spec rfl (spec_reads_template rfl template_reads_blob) v resource checked

end ControlPlaneMetrics
