import ControlPlaneMetrics.Proofs.Verdict

/-!
What extracting an instance type ends with. Whatever is the matter with a template has a failure of
its own, with one exception: the reader of a blob's JSON text gives up when the text is nested too
deep, and that failure is passed on as it is.
-/
namespace ControlPlaneMetrics

namespace Json

/-- A text that opens arrays only, and what comes after that. -/
def opening (arrays : Nat) (rest : Text) : Text := List.replicate arrays (.char '[') ++ rest

theorem skipSpace_opening (arrays : Nat) (rest : Text) :
    skipSpace (opening (arrays + 1) rest) = opening (arrays + 1) rest := by
  rw [opening, List.replicate_succ, List.cons_append, skipSpace]
  exact List.dropWhile_cons_of_neg (by decide)

/-- The reader gives up at the first array for which there is no room. -/
theorem value_opening (depth spare : Nat) (rest : Text) :
    value (2 * depth + 1 + spare) depth (opening (depth + 1) rest) =
      .error (.nestedTooDeep .array) := by
  induction depth with
  | zero =>
    rw [show 2 * 0 + 1 + spare = spare + 1 by omega]
    rfl
  | succ depth ih =>
    -- an array takes one step of the fuel for itself and one for its first element
    have inner := skipSpace_opening depth rest
    have room : 2 * (depth + 1) + 1 + spare = (2 * depth + 1 + spare) + 1 + 1 := by omega
    have first : opening (depth + 1 + 1) rest = .char '[' :: opening (depth + 1) rest := rfl
    rw [room, first, value]
    simp only [inner]
    split
    · next empty => cases empty
    · simp only [elements, ih]

theorem parseWithin_opening (depth : Nat) (rest : Text) :
    parseWithin depth (opening (depth + 1) rest) = .error (.nestedTooDeep .array) := by
  have length : (opening (depth + 1) rest).length = depth + 1 + rest.length := by
    simp [opening]
  have fuel : 2 * (opening (depth + 1) rest).length + 2 = 2 * depth + 1 + (2 * rest.length + 3) := by
    omega
  rw [parseWithin, skipSpace_opening, fuel, value_opening]

theorem parse_opening (rest : Text) :
    parse (opening (assumedDepth + 1) rest) = .error (.nestedTooDeep .array) := by
  have read := parseWithin_opening assumedDepth rest
  unfold parse
  split
  · next same => cases same
  · exact read

end Json

/-- The failures of decoding a template. -/
def Failure.isDecoding : Failure → Bool
  | unsupportedPlatform _ => true
  | unsupportedMachineKind _ => true
  | malformedProviderSpec .. => true
  | _ => false

theorem Failure.isExit_of_isDecoding {failure : Failure} (decoding : failure.isDecoding = true) :
    failure.isExit = false := by
  cases failure with
  | foreign => cases decoding
  | _ => rfl

namespace Provider

theorem readBlob_error {platform : Text} {blob : Value} {failure : Failure}
    (refused : readBlob platform blob = .error failure) :
    failure.isDecoding = true ∨ ∃ container, failure = .nestedTooDeep container := by
  cases blob with
  | text t =>
    cases parsed : Json.parse t with
    | ok v =>
      simp only [readBlob, parsed] at refused
      cases refused
    | error fault =>
      simp only [readBlob, parsed] at refused
      cases fault with
      | nestedTooDeep container => cases refused; exact .inr ⟨container, rfl⟩
      | _ => cases refused; exact .inl rfl
  | bytes octets =>
    cases decoded : Encoding.decode octets with
    | error fault =>
      simp only [readBlob, decoded] at refused
      cases refused
      exact .inl rfl
    | ok t =>
      cases parsed : Json.parseWithin Json.assumedDepth t with
      | ok v =>
        simp only [readBlob, decoded, parsed] at refused
        cases refused
      | error fault =>
        simp only [readBlob, decoded, parsed] at refused
        cases fault with
        | nestedTooDeep container => cases refused; exact .inr ⟨container, rfl⟩
        | _ => cases refused; exact .inl rfl
  | _ => cases refused

theorem configuredSize_error {platform : Text} {model : Resource.Model Text} {blob : Value}
    {failure : Failure} (refused : configuredSize platform model blob = .error failure) :
    failure.isDecoding = true ∨ ∃ container, failure = .nestedTooDeep container := by
  unfold configuredSize at refused
  split at refused
  · cases refused
    exact .inl rfl
  · split at refused
    · next unread =>
      cases refused
      exact readBlob_error unread
    · split at refused
      · cases refused
      · cases refused
        exact .inl rfl
    · cases refused
      exact .inl rfl

theorem configuredSize_ends (scheme : Scheme) (blob : Value) :
    (∃ size, configuredSize scheme.platform scheme.model blob = .ok (.text size)) ∨
    (∃ failure, configuredSize scheme.platform scheme.model blob = .error failure ∧
      failure.isDecoding = true) ∨
    ∃ container, configuredSize scheme.platform scheme.model blob =
      .error (.nestedTooDeep container) ∧ Json.assumedDepth < blobNesting blob := by
  cases result : configuredSize scheme.platform scheme.model blob with
  | ok size =>
    obtain ⟨t, rfl⟩ := configuredSize_text result
    exact .inl ⟨t, rfl⟩
  | error failure =>
    rcases configuredSize_error result with decoding | ⟨container, rfl⟩
    · exact .inr (.inl ⟨failure, rfl, decoding⟩)
    · refine .inr (.inr ⟨container, rfl, ?_⟩)
      -- a text that is not too deep is read for what it is, and then the failure is another
      apply Nat.lt_of_not_le
      intro shallow
      obtain ⟨size, sized⟩ := sized_total scheme blob
      rw [configuredSize_eq shallow sized] at result
      cases size <;> cases result

/-- For every template: its instance type, a failure of decoding, or a blob whose JSON text is nested
deeper than the reader follows. -/
theorem extract_ends (template : MachineSetTemplate) :
    (∃ platform size, extract builtIn template = .ok (platform, .text size)) ∨
    (∃ failure, extract builtIn template = .error failure ∧ failure.isDecoding = true) ∨
    ∃ container, extract builtIn template = .error (.nestedTooDeep container) ∧
      Json.assumedDepth < blobNesting (Resource.blobOf template) := by
  rw [extract_builtIn]
  split
  · cases (Resource.platformOf template).bind scheme? with
    | none => exact .inr (.inl ⟨_, rfl, rfl⟩)
    | some scheme =>
      rcases configuredSize_ends scheme (Resource.blobOf template) with
        ⟨size, result⟩ | ⟨failure, result, decoding⟩ | ⟨container, result, deep⟩
      · exact .inl ⟨scheme.platform, size, by simp only [result]; rfl⟩
      · exact .inr (.inl ⟨failure, by simp only [result]; rfl, decoding⟩)
      · exact .inr (.inr ⟨container, by simp only [result]; rfl, deep⟩)
  · exact .inr (.inl ⟨_, rfl, rfl⟩)

/-- A template on a platform that has a decoder, with a text for a blob. -/
def onPlatform (scheme : Scheme) (blob : Text) : MachineSetTemplate where
  machineType := machineSectionName
  machine := some
    { spec := ⟨⟨.text blob⟩⟩
      failureDomains := some ⟨some scheme.platform⟩ }

theorem extract_onPlatform {scheme : Scheme} (known : scheme? scheme.platform = some scheme)
    (blob : Text) : extract builtIn (onPlatform scheme blob) =
      (configuredSize scheme.platform scheme.model (.text blob)).map (scheme.platform, ·) := by
  have kind : supportedMachineTypes.contains machineSectionName = true := by decide +kernel
  have supported : (supportedMachineTypes.contains (onPlatform scheme blob).machineType &&
      (onPlatform scheme blob).machine.isSome) = true := Bool.and_eq_true_iff.mpr ⟨kind, rfl⟩
  have declared : Resource.platformOf (onPlatform scheme blob) = some scheme.platform := rfl
  rw [extract_builtIn, if_pos supported, declared, Option.bind_some, known]
  rfl

/-- Whatever follows the arrays, a blob that opens too many of them ends with no failure of
decoding. -/
theorem extract_opening {scheme : Scheme} (known : scheme? scheme.platform = some scheme)
    (rest : Text) : extract builtIn (onPlatform scheme (Json.opening (Json.assumedDepth + 1) rest)) =
      .error (.nestedTooDeep .array) := by
  have refused : readBlob scheme.platform (.text (Json.opening (Json.assumedDepth + 1) rest)) =
      .error (.nestedTooDeep .array) := by
    simp only [readBlob, Json.parse_opening]
    rfl
  rw [extract_onPlatform known]
  simp only [configuredSize, refused]
  rfl

theorem extract_deep_arrays :
    let template := onPlatform Scheme.aws (List.replicate 20000 (.char '['))
    ∃ failure, extract builtIn template = .error failure ∧ failure.isDecoding = false := by
  intro template
  have split : List.replicate 20000 (CodePoint.char '[') =
      Json.opening (Json.assumedDepth + 1) (List.replicate 19019 (.char '[')) := by
    have count : Json.assumedDepth + 1 + 19019 = 20000 := rfl
    rw [Json.opening, List.replicate_append_replicate, count]
  refine ⟨.nestedTooDeep .array, ?_, rfl⟩
  rw [show template = onPlatform _ _ from congrArg (onPlatform Scheme.aws) split]
  exact extract_opening rfl _

end Provider

end ControlPlaneMetrics
