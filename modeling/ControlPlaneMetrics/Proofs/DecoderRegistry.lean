import ControlPlaneMetrics.Proofs.Verdict

/-!
Decoders are registered one after the other, each for one platform. What comes of a template
depends on the last registration for the platform that it declares; whatever else was registered,
before it or after it, does not show.
-/
namespace ControlPlaneMetrics.Provider

open Resource (platformOf blobOf)

variable {platform : Text} {registrations : List (Text × Decoder)}

/-! ## Registrations -/

/-- The registry after the registrations, each of a decoder for a platform, in their order. -/
def registerAll (registry : Registry) (registrations : List (Text × Decoder)) : Registry :=
  registrations.foldl (fun registry r => register registry r.1 r.2) registry

/-- The last of the registrations for a platform. -/
def lastFor? (platform : Text) (registrations : List (Text × Decoder)) : Option (Text × Decoder) :=
  registrations.reverse.find? fun r => r.1 = platform

theorem lastFor?_cons (r : Text × Decoder) : lastFor? platform (r :: registrations) =
    (lastFor? platform registrations).or (if r.1 = platform then some r else none) := by
  simp only [lastFor?, List.reverse_cons, List.find?_append]
  congr 1
  by_cases same : r.1 = platform <;> simp [same]

theorem lastFor?_platform {r : Text × Decoder} (last : lastFor? platform registrations = some r) :
    r.1 = platform := by
  simpa using List.find?_some last

theorem lastFor?_isSome_iff :
    (lastFor? platform registrations).isSome ↔ platform ∈ registrations.map (·.1) := by
  rw [lastFor?, List.find?_isSome]
  constructor
  · rintro ⟨r, member, own⟩
    obtain rfl : r.1 = platform := by simpa using own
    exact List.mem_map_of_mem (List.mem_reverse.mp member)
  · intro registered
    obtain ⟨r, member, own⟩ := List.mem_map.mp registered
    exact ⟨r, List.mem_reverse.mpr member, by simpa using own⟩

theorem lastFor?_eq_none (unregistered : platform ∉ registrations.map (·.1)) :
    lastFor? platform registrations = none := by
  rwa [← Option.not_isSome_iff_eq_none, lastFor?_isSome_iff]

/-- The last registration for a platform is the last one also when it is the only one. -/
theorem lastFor?_alone :
    lastFor? platform (lastFor? platform registrations).toList =
      lastFor? platform registrations := by
  cases last : lastFor? platform registrations with
  | none => rfl
  | some r => simp [lastFor?, lastFor?_platform last]

theorem lookup?_registerAll (platform : Text) (registry : Registry)
    (registrations : List (Text × Decoder)) :
    lookup? platform (registerAll registry registrations) =
      ((lastFor? platform registrations).map (·.2)).or (lookup? platform registry) := by
  induction registrations generalizing registry with
  | nil => rfl
  | cons r rest ih =>
    have later := ih (register registry r.1 r.2)
    rw [registerAll, List.foldl_cons, ← registerAll, later, lastFor?_cons, register, lookup?_write]
    cases lastFor? platform rest with
    | some s => rfl
    | none => by_cases same : r.1 = platform <;> simp [same]

theorem nodup_registerAll {registry : Registry} (nodup : (registry.map (·.1)).Nodup)
    (registrations : List (Text × Decoder)) :
    ((registerAll registry registrations).map (·.1)).Nodup := by
  induction registrations generalizing registry with
  | nil => exact nodup
  | cons r rest ih => exact ih (nodup_write r.1 r.2 nodup)

/-- The platforms that have a decoder. -/
theorem mem_platforms_registerAll (platform : Text) (registry : Registry)
    (registrations : List (Text × Decoder)) :
    platform ∈ (registerAll registry registrations).map (·.1) ↔
      platform ∈ registry.map (·.1) ∨ platform ∈ registrations.map (·.1) := by
  rw [← lookup?_isSome_iff, lookup?_registerAll, Option.isSome_or, Bool.or_eq_true,
    lookup?_isSome_iff, Option.isSome_map, lastFor?_isSome_iff, or_comm]

/-! ## Templates -/

/-- The template is of a supported kind and has a machine section. -/
def Described (template : MachineSetTemplate) : Prop :=
  supportedMachineTypes.contains template.machineType = true ∧ template.machine.isSome = true

/-- The decoder of the platform that the template declares, with the platform. -/
def decoderFor? (registry : Registry) (template : MachineSetTemplate) : Option (Text × Decoder) :=
  (platformOf template).bind fun platform => (lookup? platform registry).map (platform, ·)

theorem extract_of_undescribed {template : MachineSetTemplate} (undescribed : ¬Described template)
    (registry : Registry) : extract registry template =
      .error (.unsupportedMachineKind (.text template.machineType)) := by
  obtain ⟨machineType, machine⟩ := template
  unfold extract
  by_cases known : supportedMachineTypes.contains machineType = true
  · cases machine with
    | none => simp
    | some machine => exact absurd ⟨known, rfl⟩ undescribed
  · exact if_pos known

/-- Of a registry, a template that is described sees the one decoder. -/
theorem extract_of_described {template : MachineSetTemplate} (described : Described template)
    (registry : Registry) : extract registry template =
      (decoderFor? registry template).elim
        (.error (.unsupportedPlatform (Resource.ofOption .text (platformOf template))))
        fun found => (found.2 (blobOf template)).map (found.1, ·) := by
  obtain ⟨machineType, machine⟩ := template
  obtain ⟨known, present⟩ := described
  obtain ⟨machine, rfl⟩ := Option.isSome_iff_exists.mp present
  have own : platformOf ⟨machineType, some machine⟩ = machine.platform := rfl
  rw [extract, if_neg (not_not_intro known), decoderFor?, own]
  cases declared : machine.platform with
  | none => simp [Resource.ofOption, declared]
  | some platform =>
    cases registered : lookup? platform registry with
    | none => simp [Resource.ofOption, declared, registered]
    | some decoder => simp [declared, registered, blobOf]

theorem extract_congr {template : MachineSetTemplate} {registry registry' : Registry}
    (same : ∀ platform, platformOf template = some platform →
      lookup? platform registry = lookup? platform registry') :
    extract registry template = extract registry' template := by
  by_cases described : Described template
  · have found : decoderFor? registry template = decoderFor? registry' template := by
      unfold decoderFor?
      cases declared : platformOf template with
      | none => rfl
      | some platform => rw [Option.bind_some, Option.bind_some, same platform declared]
    rw [extract_of_described described, extract_of_described described, found]
  · rw [extract_of_undescribed described, extract_of_undescribed described]

/-- The last registration for the platform that the template declares. -/
def inForce? (registrations : List (Text × Decoder)) (template : MachineSetTemplate) :
    Option (Text × Decoder) :=
  (platformOf template).bind fun platform => lastFor? platform registrations

/-- Whatever is registered, for new platforms or again for old ones: what comes of a template is
what would come of it if only the last registration for its platform had been made, and that is what
the decoder registered there makes of its blob. If there is no such registration, or the template is not
described, the registrations do not matter at all. Supported are the two platforms that need no
registration and those that are registered. -/
theorem last_registration_decides (registrations : List (Text × Decoder)) :
    (∀ template,
      extract (registerAll builtIn registrations) template =
        extract (registerAll builtIn (inForce? registrations template).toList) template ∧
      (supportedMachineTypes.contains template.machineType = false ∨ template.machine = none ∨
          (∀ platform, platformOf template = some platform →
            platform ∉ registrations.map (·.1)) →
        extract (registerAll builtIn registrations) template = extract builtIn template) ∧
      (Described template →
        (∀ platform decoder, inForce? registrations template = some (platform, decoder) →
          extract (registerAll builtIn registrations) template =
            (decoder (blobOf template)).map (platform, ·)) ∧
        ∀ platform, platformOf template = some platform →
          platform ∉ (registerAll builtIn registrations).map (·.1) →
          extract (registerAll builtIn registrations) template =
            .error (.unsupportedPlatform (.text platform)))) ∧
    (∀ platform, platform ∈ (registerAll builtIn registrations).map (·.1) ↔
      platform = aws ∨ platform = gcp ∨ platform ∈ registrations.map (·.1)) ∧
    ((registerAll builtIn registrations).map (·.1)).Nodup := by
  have nodup : (builtIn.map (·.1)).Nodup := by
    have apart : aws ≠ gcp := by decide
    simpa [builtIn] using apart
  refine ⟨fun template => ⟨?_, ?_, fun described => ⟨?_, ?_⟩⟩, fun platform => ?_,
    nodup_registerAll nodup registrations⟩
  · refine extract_congr fun platform declared => ?_
    rw [lookup?_registerAll, lookup?_registerAll, inForce?, declared, Option.bind_some,
      lastFor?_alone]
  · rintro (unknown | missing | unregistered)
    · have undescribed : ¬Described template := fun described =>
        Bool.false_ne_true (unknown.symm.trans described.1)
      rw [extract_of_undescribed undescribed, extract_of_undescribed undescribed]
    · have undescribed : ¬Described template := fun described => by
        simpa [missing] using described.2
      rw [extract_of_undescribed undescribed, extract_of_undescribed undescribed]
    · refine extract_congr fun platform declared => ?_
      rw [lookup?_registerAll, lastFor?_eq_none (unregistered platform declared)]
      rfl
  · intro platform decoder last
    obtain ⟨declared, own, here⟩ := Option.bind_eq_some_iff.mp last
    obtain rfl : platform = declared := lastFor?_platform here
    rw [extract_of_described described, decoderFor?, own, Option.bind_some, lookup?_registerAll,
      here]
    rfl
  · intro platform declared unsupported
    have missing : lookup? platform (registerAll builtIn registrations) = none := by
      rw [← Option.not_isSome_iff_eq_none, lookup?_isSome_iff]
      exact unsupported
    rw [extract_of_described described, decoderFor?, declared, Option.bind_some, missing]
    rfl
  · rw [mem_platforms_registerAll]
    simp [builtIn, or_assoc]

def azure : Text := Text.ofString "Azure"

/-- Azure is registered twice, and AWS anew. -/
def registeredTwice : List (Text × Decoder) :=
  let reading (name : String) : Decoder := fieldDecoder (.text (Text.ofString name))
  [(azure, reading "size"), (aws, reading "vmSize"), (azure, reading "vmSize")]

/-- A template on a platform. -/
def templateOn (platform : Text) (blob : Value) : MachineSetTemplate where
  machineType := machineSectionName
  machine := some { spec := ⟨⟨blob⟩⟩, failureDomains := some ⟨some platform⟩ }

theorem described_templateOn (platform : Text) (blob : Value) :
    Described (templateOn platform blob) := by
  have known : supportedMachineTypes.contains machineSectionName = true := by decide +kernel
  exact ⟨known, rfl⟩

/-- The second decoder of Azure and the new one of AWS are in force, GCP is read as before, and a
platform that no registration names is refused. -/
theorem last_of_two_registrations_decides :
    let registry := registerAll builtIn registeredTwice
    let size : Value := .text (Text.ofString "D4s_v3")
    let blob : Value := .object [(Text.ofString "size", .null), (Text.ofString "vmSize", size)]
    extract registry (templateOn azure blob) = .ok (azure, size) ∧
    extract registry (templateOn aws blob) = .ok (aws, size) ∧
    extract registry (templateOn gcp blob) = extract builtIn (templateOn gcp blob) ∧
    extract registry (templateOn (Text.ofString "azure") blob) =
      .error (.unsupportedPlatform (.text (Text.ofString "azure"))) ∧
    extract registry ⟨machineSectionName, none⟩ = extract builtIn ⟨machineSectionName, none⟩ := by
  intro registry size blob
  obtain ⟨decided, -⟩ := last_registration_decides registeredTwice
  have ofAzure := ((decided (templateOn azure blob)).2.2 (described_templateOn ..)).1
  have ofAws := ((decided (templateOn aws blob)).2.2 (described_templateOn ..)).1
  have ofGcp := (decided (templateOn gcp blob)).2.1
  have ofLower := ((decided (templateOn (Text.ofString "azure") blob)).2.2
    (described_templateOn ..)).2
  have ofNone := (decided ⟨machineSectionName, none⟩).2.1
  refine ⟨?_, ?_, ?_, ?_, ?_⟩
  · exact ofAzure azure (fieldDecoder (.text (Text.ofString "vmSize"))) rfl
  · exact ofAws aws (fieldDecoder (.text (Text.ofString "vmSize"))) rfl
  · refine ofGcp (.inr (.inr fun platform declared => ?_))
    obtain rfl : gcp = platform := Option.some.inj declared
    decide
  · exact ofLower _ rfl (by decide)
  · exact ofNone (.inr (.inl rfl))

end ControlPlaneMetrics.Provider
