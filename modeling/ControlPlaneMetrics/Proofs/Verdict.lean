import ControlPlaneMetrics.Proofs.Declared
import ControlPlaneMetrics.Proofs.Nesting
import ControlPlaneMetrics.Proofs.Reconciliation

/-!
What becomes of a fetched value, read off the value itself. However many of its checks it would
fail, the first one decides, in one fixed order: the schema, the state, the kind of machine, the
platform, and then the provider's blob from the outside in.
-/
namespace ControlPlaneMetrics

open Schema Metrics

/-! ## The provider's blob -/

namespace Value

/-- Text and octets hold a blob's JSON text. -/
def isSource : Value → Bool
  | text _ => true
  | bytes _ => true
  | _ => false

/-- Why a value that spells no text is not taken for one. -/
def textFlaw : Value → Flaw
  | bytes _ => .textNotUnicode
  | _ => .notText

end Value

namespace Provider

/-- How deep a blob's JSON text is nested; zero for a blob without a text. -/
def blobNesting : Value → Nat
  | .text t => Json.nesting t
  | .bytes octets => match Encoding.decode octets with
    | .ok t => Json.nesting t
    | .error _ => 0
  | _ => 0

/-- What a blob is taken for: the value of its JSON text, or itself. -/
inductive Taken : Value → Except BlobFault Value → Prop where
  | asGiven : blob.isSource = false → Taken blob (.ok blob)
  | text : Json.parse t = .ok v → Taken (.text t) (.ok v)
  | badText : Json.parse t = .error fault → Taken (.text t) (.error (.notJson t fault))
  | octets : Encoding.decode octets = .ok t → Json.parseWithin Json.assumedDepth t = .ok v →
      Taken (.bytes octets) (.ok v)
  | badOctets : Encoding.decode octets = .ok t →
      Json.parseWithin Json.assumedDepth t = .error fault →
      Taken (.bytes octets) (.error (.notJson t fault))
  | unreadable : Encoding.decode octets = .error fault →
      Taken (.bytes octets) (.error (.notText fault))

/-- How a platform's configuration states its size: the name of the record and the field. -/
structure Scheme where
  platform : Text
  record : Text
  size : Field

namespace Scheme

def aws : Scheme where
  platform := Provider.aws
  record := Text.ofString "AWSMachineProviderConfig"
  size := .named "instanceType" "instance_type"

def gcp : Scheme where
  platform := Provider.gcp
  record := Text.ofString "GCPMachineProviderSpec"
  size := .named "machineType" "machine_type"

def model (scheme : Scheme) : Resource.Model Text :=
  ⟨scheme.record, scheme.size.required Resource.text⟩

/-- The report of one problem with the member of that name. -/
def report (scheme : Scheme) (name : Text) (flaw : Flaw) : Report :=
  ⟨scheme.record, [⟨[name], flaw⟩]⟩

end Scheme

def scheme? (platform : Text) : Option Scheme :=
  if platform = aws then some Scheme.aws else if platform = gcp then some Scheme.gcp else none

/-- The size that a blob states by the scheme, or what is the matter with the blob. -/
inductive Sized (scheme : Scheme) : Value → Except BlobFault Text → Prop where
  | empty : Sized scheme .null (.error .empty)
  | unread : Taken blob (.error fault) → Sized scheme blob (.error fault)
  | notObject : blob.isNull = false → Taken blob (.ok v) → v.isObject = false →
      Sized scheme blob (.error (.notObject v.kindName))
  | missing : Taken blob (.ok (.object members)) → scheme.size.find? members = none →
      Sized scheme blob
        (.error (.notConfiguration (scheme.report scheme.size.wire .missing) (.object members)))
  | notText : Taken blob (.ok (.object members)) → scheme.size.find? members = some (name, v) →
      v.spelled? = none →
      Sized scheme blob
        (.error (.notConfiguration (scheme.report name v.textFlaw) (.object members)))
  | stated : Taken blob (.ok (.object members)) → scheme.size.find? members = some (name, v) →
      v.spelled? = some size → Sized scheme blob (.ok size)

theorem taken_total (blob : Value) : ∃ taken, Taken blob taken := by
  cases blob with
  | text t =>
    cases parsed : Json.parse t with
    | ok v => exact ⟨_, .text parsed⟩
    | error fault => exact ⟨_, .badText parsed⟩
  | bytes octets =>
    cases decoded : Encoding.decode octets with
    | error fault => exact ⟨_, .unreadable decoded⟩
    | ok t =>
      cases parsed : Json.parseWithin Json.assumedDepth t with
      | ok v => exact ⟨_, .octets decoded parsed⟩
      | error fault => exact ⟨_, .badOctets decoded parsed⟩
  | _ => exact ⟨_, .asGiven rfl⟩

theorem sized_total (scheme : Scheme) (blob : Value) : ∃ size, Sized scheme blob size := by
  cases absent : blob.isNull with
  | true =>
    rw [Value.eq_null_of_isNull absent]
    exact ⟨_, .empty⟩
  | false =>
    obtain ⟨taken, takes⟩ := taken_total blob
    cases taken with
    | error fault => exact ⟨_, .unread takes⟩
    | ok v =>
      cases v with
      | object members =>
        cases found : scheme.size.find? members with
        | none => exact ⟨_, .missing takes found⟩
        | some entry =>
          cases spelled : entry.2.spelled? with
          | none => exact ⟨_, .notText takes found spelled⟩
          | some size => exact ⟨_, .stated takes found spelled⟩
      | _ => exact ⟨_, .notObject absent takes rfl⟩

/-- A fault of a blob as the failure that names the platform. -/
def blame (platform : Text) : Except BlobFault α → Except Failure α
  | .ok a => .ok a
  | .error fault => .error (.malformedProviderSpec (.text platform) fault)

/-- A blob whose text is not too deep is read as what it is taken for. -/
theorem readBlob_eq {platform : Text} {blob : Value} {taken : Except BlobFault Value}
    (shallow : blobNesting blob ≤ Json.assumedDepth) (takes : Taken blob taken) :
    readBlob platform blob = blame platform taken := by
  cases takes with
  | asGiven given => cases blob <;> first | rfl | cases given
  | text parsed => simp only [readBlob, parsed]; rfl
  | @badText t fault parsed =>
    -- the one fault that is not blamed on the platform is that of a text that is too deep
    have fair := Json.parse_fault shallow parsed
    cases fault with
    | nestedTooDeep => cases fair
    | _ => simp only [readBlob, parsed]; rfl
  | octets decoded parsed => simp only [readBlob, decoded, parsed]; rfl
  | @badOctets octets t fault decoded parsed =>
    have fair := Json.parseWithin_fault (by simpa [blobNesting, decoded] using shallow) parsed
    cases fault with
    | nestedTooDeep => cases fair
    | _ => simp only [readBlob, decoded, parsed]; rfl
  | unreadable decoded => simp only [readBlob, decoded]; rfl

theorem text_eq_error {v : Value} (unspelled : v.spelled? = none) :
    Resource.text v = .flawed v.textFlaw := by
  cases v with
  | text t => cases unspelled
  | bytes octets =>
    have undecoded : Encoding.utf8? octets = none := unspelled
    simp [Resource.text, scalar, Value.scalar, Coercion.text, Value.textFlaw, undecoded]
  | _ => rfl

theorem Scheme.validate_eq (scheme : Scheme) (members : List (Text × Value)) :
    scheme.model.validate (.object members) = match scheme.size.find? members with
      | none => .error (scheme.report scheme.size.wire .missing)
      | some (name, v) => match v.spelled? with
        | some size => .ok size
        | none => .error (scheme.report name v.textFlaw) := by
  have required : scheme.model.validate (.object members) =
      (scheme.size.required Resource.text members).mapError fun problems =>
        ⟨scheme.record, problems⟩ := rfl
  rw [required]
  unfold Field.required Field.read
  cases found : scheme.size.find? members with
  | none => rfl
  | some entry =>
    obtain ⟨name, v⟩ := entry
    cases spelled : v.spelled? with
    | some size =>
      have accepted := (Resource.text_eq_ok_iff v size).mpr spelled
      simp only [accepted, spelled]
      rfl
    | none =>
      have refused := text_eq_error spelled
      simp only [refused, spelled]
      rfl

/-- The decoder of a platform finds the size that its scheme states. -/
theorem configuredSize_eq {scheme : Scheme} {blob : Value} {size : Except BlobFault Text}
    (shallow : blobNesting blob ≤ Json.assumedDepth) (sized : Sized scheme blob size) :
    configuredSize scheme.platform scheme.model blob =
      blame scheme.platform (size.map Value.text) := by
  cases absent : blob.isNull with
  | true =>
    -- null is refused before it is taken for anything
    obtain rfl := Value.eq_null_of_isNull absent
    cases sized with
    | empty => rfl
    | notObject present => cases present
    | unread takes | missing takes | notText takes | stated takes => cases takes
  | false =>
    unfold configuredSize
    split
    · cases absent
    cases sized with
    | empty => cases absent
    | unread takes => rw [readBlob_eq shallow takes]; rfl
    | @notObject _ v _ takes other =>
      rw [readBlob_eq shallow takes]
      cases v <;> first | rfl | cases other
    | missing takes found | notText takes found spelled | stated takes found spelled =>
      simp only [readBlob_eq shallow takes, blame, scheme.validate_eq, *, Except.map]

theorem scheme?_platform {platform : Text} {scheme : Scheme} (known : scheme? platform = some scheme) :
    scheme.platform = platform := by
  unfold scheme? at known
  split at known
  · next same => cases known; exact same.symm
  · split at known
    · next same => cases known; exact same.symm
    · cases known

/-- The registry without further registrations has the decoders of the schemes. -/
theorem lookup?_builtIn (platform : Text) : lookup? platform builtIn =
    (scheme? platform).map fun scheme => configuredSize scheme.platform scheme.model := by
  simp only [builtIn, lookup?, scheme?, eq_comm (b := platform)]
  split
  · rfl
  · split <;> rfl

/-- Four things in a template decide what comes of it. -/
theorem extract_builtIn (template : MachineSetTemplate) :
    extract builtIn template =
      if supportedMachineTypes.contains template.machineType && template.machine.isSome then
        match (Resource.platformOf template).bind scheme? with
        | none => .error (.unsupportedPlatform
            (Resource.ofOption .text (Resource.platformOf template)))
        | some scheme => (configuredSize scheme.platform scheme.model
            (Resource.blobOf template)).map (scheme.platform, ·)
      else .error (.unsupportedMachineKind (.text template.machineType)) := by
  obtain ⟨machineType, machine⟩ := template
  unfold extract
  cases supportedMachineTypes.contains machineType with
  | false => simp
  | true =>
    cases machine with
    | none => simp
    | some machine =>
      have own : Resource.platformOf ⟨machineType, some machine⟩ = machine.platform := rfl
      cases declared : machine.platform with
      | none => simp [own, declared, Resource.ofOption]
      | some platform =>
        cases known : scheme? platform with
        | none => simp [own, declared, lookup?_builtIn, known, Resource.ofOption]
        | some scheme =>
          simp [own, declared, lookup?_builtIn, known, scheme?_platform known, Resource.blobOf]

end Provider

/-! ## The whole value -/

namespace Declared

/-- The flag of the declared state, if it is one of the two known. -/
def enabled? (v : Value) : Option Bool :=
  if state v = some (Text.ofString "Active") then some true
  else if state v = some (Text.ofString "Inactive") then some false
  else none

/-- The machine type is one of the two supported, and there is a machine section. -/
def hasSupportedKind (v : Value) : Bool :=
  Provider.supportedMachineTypes.contains (machineType v) && hasMachine v

/-- The scheme of the declared platform, if the platform is one of the two supported. -/
def scheme? (v : Value) : Option Provider.Scheme := (platform v).bind Provider.scheme?

end Declared

def IsMachineSet (v : Value) : Prop := ∃ resource, Resource.machineSet.validate v = .ok resource

/-- The first check that the value fails, or what is observed if it passes them all. -/
inductive Judged (v : Value) : Except Failure Observation → Prop where
  | invalid : Resource.machineSet.validate v = .error report →
      Judged v (.error (.invalidResource report v))
  | misdeclared : IsMachineSet v → Declared.enabled? v = none →
      Judged v (.error (.invalidDeclaredState (Resource.ofOption .text (Declared.state v))))
  | unsupportedKind : IsMachineSet v → Declared.enabled? v = some enabled →
      Declared.hasSupportedKind v = false →
      Judged v (.error (.unsupportedMachineKind (.text (Declared.machineType v))))
  | unsupportedPlatform : IsMachineSet v → Declared.enabled? v = some enabled →
      Declared.hasSupportedKind v = true → Declared.scheme? v = none →
      Judged v (.error (.unsupportedPlatform (Resource.ofOption .text (Declared.platform v))))
  | malformed : IsMachineSet v → Declared.enabled? v = some enabled →
      Declared.hasSupportedKind v = true → Declared.scheme? v = some scheme →
      Provider.Sized scheme (Declared.blob v) (.error fault) →
      Judged v (.error (.malformedProviderSpec (.text scheme.platform) fault))
  | observed : IsMachineSet v → Declared.enabled? v = some enabled →
      Declared.hasSupportedKind v = true → Declared.scheme? v = some scheme →
      Provider.Sized scheme (Declared.blob v) (.ok size) →
      Judged v (.ok ⟨scheme.platform, .text size, enabled⟩)

theorem judged_total (v : Value) : ∃ verdict, Judged v verdict := by
  cases validated : Resource.machineSet.validate v with
  | error report => exact ⟨_, .invalid validated⟩
  | ok resource =>
    have valid : IsMachineSet v := ⟨resource, validated⟩
    cases state : Declared.enabled? v with
    | none => exact ⟨_, .misdeclared valid state⟩
    | some enabled =>
      cases kind : Declared.hasSupportedKind v with
      | false => exact ⟨_, .unsupportedKind valid state kind⟩
      | true =>
        cases known : Declared.scheme? v with
        | none => exact ⟨_, .unsupportedPlatform valid state kind known⟩
        | some scheme =>
          obtain ⟨size, sized⟩ := Provider.sized_total scheme (Declared.blob v)
          cases size with
          | error fault => exact ⟨_, .malformed valid state kind known sized⟩
          | ok size => exact ⟨_, .observed valid state kind known sized⟩

theorem parseState_declared (v : Value) :
    parseState (Resource.ofOption .text (Declared.state v)) = match Declared.enabled? v with
      | some enabled => .ok enabled
      | none => .error (.invalidDeclaredState (Resource.ofOption .text (Declared.state v))) := by
  unfold Declared.enabled?
  cases Declared.state v with
  | none => rfl
  | some state =>
    simp only [parseState, Resource.ofOption, Value.same, decide_eq_true_eq, Option.some.injEq]
    split
    · rfl
    · split <;> rfl

/-- A value that the schema accepts is observed by what it declares. -/
theorem observe_eq {v : Value} (valid : IsMachineSet v) :
    observe v = match Declared.enabled? v with
      | none => .error (.invalidDeclaredState (Resource.ofOption .text (Declared.state v)))
      | some enabled =>
        if Declared.hasSupportedKind v then
          match Declared.scheme? v with
          | none => .error (.unsupportedPlatform (Resource.ofOption .text (Declared.platform v)))
          | some scheme => (Provider.configuredSize scheme.platform scheme.model
              (Declared.blob v)).map (⟨scheme.platform, ·, enabled⟩)
        else .error (.unsupportedMachineKind (.text (Declared.machineType v))) := by
  obtain ⟨resource, validated⟩ := valid
  have declares := declares_of_validate validated
  have parsed : parseMachineSet v = .ok resource := by
    rw [parseMachineSet, validated]
    rfl
  simp only [observe, parsed, bind, Except.bind, declares.state, parseState_declared,
    Provider.extract_builtIn, declares.machineType, declares.machine, declares.platform,
    declares.blob]
  unfold Declared.hasSupportedKind Declared.scheme?
  cases Declared.enabled? v with
  | none => rfl
  | some enabled =>
    cases Provider.supportedMachineTypes.contains (Declared.machineType v) &&
      Declared.hasMachine v with
    | false => rfl
    | true =>
      cases (Declared.platform v).bind Provider.scheme? with
      | none => rfl
      | some scheme =>
        cases sized : Provider.configuredSize scheme.platform scheme.model (Declared.blob v) <;>
          simp [sized, Except.map]

/-- Where a blob's text is not too deep, the first failing check decides. -/
theorem observe_of_judged {v : Value} {verdict : Except Failure Observation}
    (shallow : Provider.blobNesting (Declared.blob v) ≤ Json.assumedDepth)
    (judged : Judged v verdict) : observe v = verdict := by
  cases judged with
  | invalid refused =>
    rw [observe, parseMachineSet, refused]
    rfl
  | misdeclared valid state => simp [observe_eq valid, state]
  | unsupportedKind valid state kind => simp [observe_eq valid, state, kind]
  | unsupportedPlatform valid state kind known => simp [observe_eq valid, state, kind, known]
  | malformed valid state kind known sized | observed valid state kind known sized =>
    have decoded := Provider.configuredSize_eq shallow sized
    simp only [observe_eq valid, state, kind, known, decoded, if_true]
    rfl

/-- A fetched value whose blob holds no JSON text nested more than 500 deep has exactly one verdict.
The reconciliation ends as the verdict says, and only a value that passes every check is
written. -/
theorem Exporter.first_failed_check_settles_reconcile (target : Target) (ns name : Value)
    (e : Exporter) (v : Value) (fetched : e.api.get ns name = .ok v)
    (shallow : Provider.blobNesting (Declared.blob v) ≤ 500) :
    ∃ verdict, Judged v verdict ∧ (∀ other, Judged v other → other = verdict) ∧
      (∀ failure, verdict = .error failure →
        (e.reconcile target ns name).1 = .error failure ∧
        (e.reconcile target ns name).2.metrics = e.metrics) ∧
      (∀ o clusterId, verdict = .ok o → target.clusterId = .text clusterId →
        (e.reconcile target ns name).1 = .ok ⟨false, .zero⟩ ∧
        (e.reconcile target ns name).2.metrics.store =
          Store.put (target.key o) (.bool o.enabled) e.metrics.store) := by
  have within : Provider.blobNesting (Declared.blob v) ≤ Json.assumedDepth :=
    Nat.le_trans shallow (by decide)
  obtain ⟨verdict, judged⟩ := judged_total v
  have observed := observe_of_judged within judged
  obtain ⟨lines, result⟩ := e.reconcile_eq target ns name
  refine ⟨verdict, judged, fun other also => ?_, fun failure failed => ?_,
    fun o clusterId passed identified => ?_⟩
  · rw [← observe_of_judged within also, observed]
  · rw [failed] at observed
    rw [result]
    simp [fetched, Target.refusal?, Target.settle?, observed, asked, Store.putAll]
  · rw [passed] at observed
    obtain ⟨size, sized⟩ := observe_text observed
    have usable := target.key_misuse? clusterId size identified o sized
    rw [result]
    simp [fetched, Target.refusal?, Target.settle?, observed, usable, asked, Store.putAll]

def MachineSet.underOwnNames (state platform : Text) (blob : Value) : Value :=
  Resource.describe Resource.ownNames
    { apiVersion := []
      kind := []
      metadata := ⟨Text.ofString "cluster", none, none⟩
      spec :=
        { state := some state
          replicas := none
          template :=
            { machineType := machineSectionName
              machine := some
                { spec := ⟨⟨blob⟩⟩
                  failureDomains := some ⟨some platform⟩ } } } }

/-- An exporter whose API has this value for a machine set. -/
def Exporter.serving (v : Value) : Exporter :=
  Exporter.initial (Api.empty.put (Text.ofString "machines") (Text.ofString "cluster") (.ok v))

/-- A size that is a number under its name on the wire, and a text under the field's own. -/
def Provider.numberBeforeText : Value :=
  .object [(Text.ofString "instanceType", .int 5),
    (Text.ofString "instance_type", .text (Text.ofString "m5.large"))]

/-- The name on the wire is the one that counts, even where only the other would do. An unsupported
platform is found before a blob that is no object. -/
theorem Exporter.reconcile_refuses_number_then_platform :
    let cluster : Value := .text (Text.ofString "cluster")
    let numbered := MachineSet.underOwnNames (Text.ofString "Inactive") Provider.aws
      Provider.numberBeforeText
    let elsewhere := MachineSet.underOwnNames (Text.ofString "Active") (Text.ofString "Azure")
      (.text (Text.ofString "5"))
    (serving numbered).api.get Target.east.ns cluster = .ok numbered ∧
    Provider.blobNesting (Declared.blob numbered) ≤ 500 ∧
    (serving elsewhere).api.get Target.east.ns cluster = .ok elsewhere ∧
    Provider.blobNesting (Declared.blob elsewhere) ≤ 500 ∧
    ((serving numbered).reconcile Target.east Target.east.ns cluster).1 =
      .error (.malformedProviderSpec (.text Provider.aws) (.notConfiguration
        (Provider.Scheme.aws.report (Text.ofString "instanceType") .notText)
        Provider.numberBeforeText)) ∧
    ((serving elsewhere).reconcile Target.east Target.east.ns cluster).1 =
      .error (.unsupportedPlatform (.text (Text.ofString "Azure"))) := by
  intro cluster numbered elsewhere
  have notText : Provider.Sized Provider.Scheme.aws (Declared.blob numbered)
      (.error (.notConfiguration (Provider.Scheme.aws.report (Text.ofString "instanceType") .notText)
        Provider.numberBeforeText)) :=
    .notText (v := .int 5) (.asGiven rfl) rfl rfl
  have malformed : Judged numbered (.error (.malformedProviderSpec (.text Provider.aws)
      (.notConfiguration (Provider.Scheme.aws.report (Text.ofString "instanceType") .notText)
        Provider.numberBeforeText))) :=
    .malformed ⟨_, rfl⟩ rfl rfl rfl notText
  have unsupported : Judged elsewhere (.error (.unsupportedPlatform
      (.text (Text.ofString "Azure")))) := .unsupportedPlatform ⟨_, rfl⟩ rfl rfl rfl
  have shallow : Provider.blobNesting (Declared.blob numbered) ≤ 500 := by decide
  have shallow' : Provider.blobNesting (Declared.blob elsewhere) ≤ 500 := by decide
  obtain ⟨_, _, first, failed, _⟩ := first_failed_check_settles_reconcile Target.east
    Target.east.ns cluster (serving numbered) numbered rfl shallow
  obtain ⟨_, _, second, failed', _⟩ := first_failed_check_settles_reconcile Target.east
    Target.east.ns cluster (serving elsewhere) elsewhere rfl shallow'
  exact ⟨rfl, shallow, rfl, shallow', (failed _ (first _ malformed).symm).1,
    (failed' _ (second _ unsupported).symm).1⟩

end ControlPlaneMetrics
