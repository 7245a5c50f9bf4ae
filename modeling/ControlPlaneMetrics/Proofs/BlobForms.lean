import ControlPlaneMetrics.Proofs.Rereading
import ControlPlaneMetrics.Provider

/-!
The forms in which an API answer can hold a provider's blob: the object itself, its JSON text, or
the octets of that text. The decoders make no difference between them.
-/
namespace ControlPlaneMetrics

/-! ## The characters of a JSON text -/

theorem Text.hasSurrogate_hex (width n : Nat) : (Text.hex width n).hasSurrogate = false := by
  simp [Text.hex, Text.hasSurrogate, CodePoint.isSurrogate]

namespace Json

theorem numericEscape_hasSurrogate (c : CodePoint) : (numericEscape c).hasSurrogate = false := by
  simp only [numericEscape]
  split <;> simp only [Text.hasSurrogate_append, Text.ofString, Text.hasSurrogate_chars,
    Text.hasSurrogate_hex, Bool.or_false]

theorem escaped_hasSurrogate (c : CodePoint) : (escaped c).hasSurrogate = false := by
  unfold escaped
  split
  · exact Text.hasSurrogate_chars _
  · exact Text.hasSurrogate_chars _
  · exact Text.hasSurrogate_chars _
  · exact Text.hasSurrogate_chars _
  · exact Text.hasSurrogate_chars _
  · exact Text.hasSurrogate_chars _
  · exact Text.hasSurrogate_chars _
  · split
    · next printable =>
      cases c with
      | char => rfl
      | surrogate index =>
        have few : 0xD800 + index.val ≤ 0x7E := printable.2
        omega
    · exact numericEscape_hasSurrogate c

theorem writeText_hasSurrogate (t : Text) : (writeText t).hasSurrogate = false := by
  have body : Text.hasSurrogate (t.flatMap escaped) = false := by
    rw [Text.hasSurrogate, List.any_flatMap, List.any_eq_false]
    intro c _
    exact Bool.eq_false_iff.mp (escaped_hasSurrogate c)
  rw [writeText, Text.hasSurrogate_append, Text.hasSurrogate_cons, body]
  rfl

mutual

/-- Surrogates are escaped, so that a JSON text can be written in each of the forms. -/
theorem write_hasSurrogate : ∀ {v : Value}, isLossless v = true → (write v).hasSurrogate = false
  | .null, _ => rfl
  | .bool b, _ => by cases b <;> rfl
  | .int n, _ => Text.hasSurrogate_chars _
  | .float x, lossless => by cases lossless
  | .text t, _ => writeText_hasSurrogate t
  | .bytes octets, lossless => by cases lossless
  | .list items, lossless => by
    rw [write, Text.hasSurrogate_append, Text.hasSurrogate_cons, writeItems_hasSurrogate lossless]
    rfl
  | .object members, lossless => by
    rw [write, Text.hasSurrogate_append, Text.hasSurrogate_cons,
      writeMembers_hasSurrogate (Bool.and_eq_true_iff.mp lossless).2]
    rfl

theorem writeItems_hasSurrogate : ∀ {items : List Value}, areLossless items = true →
    (writeItems items).hasSurrogate = false
  | [], _ => rfl
  | [v], lossless => write_hasSurrogate (Bool.and_eq_true_iff.mp lossless).1
  | v :: w :: items, lossless => by
    obtain ⟨first, others⟩ := Bool.and_eq_true_iff.mp lossless
    rw [writeItems_cons v (List.cons_ne_nil w items), Text.hasSurrogate_append,
      Text.hasSurrogate_cons, Text.hasSurrogate_cons, write_hasSurrogate first,
      writeItems_hasSurrogate others]
    rfl

theorem writeMembers_hasSurrogate : ∀ {members : List (Text × Value)},
    membersLossless members = true → (writeMembers members).hasSurrogate = false
  | [], _ => rfl
  | [(name, v)], lossless => by
    obtain ⟨here, _⟩ := Bool.and_eq_true_iff.mp lossless
    have first := write_hasSurrogate (Bool.and_eq_true_iff.mp here).2
    rw [writeMembers, Text.hasSurrogate_append, Text.hasSurrogate_append, writeText_hasSurrogate,
      first]
    rfl
  | (name, v) :: member :: members, lossless => by
    obtain ⟨here, others⟩ := Bool.and_eq_true_iff.mp lossless
    have first := write_hasSurrogate (Bool.and_eq_true_iff.mp here).2
    have later := writeMembers_hasSurrogate others
    rw [writeMembers, Text.hasSurrogate_append, Text.hasSurrogate_append,
      Text.hasSurrogate_append, Text.hasSurrogate_append, writeText_hasSurrogate, first, later]
    · rfl
    · exact nofun

end

/-- The text of an object begins with two characters of ASCII. -/
theorem write_object_head (members : List (Text × Value)) :
    ∃ c t, write (.object members) = .char '\x7b' :: .char c :: t ∧ Encoding.IsAscii c := by
  cases members with
  | nil => exact ⟨'\x7d', [], rfl, by decide⟩
  | cons member members =>
    obtain ⟨name, v⟩ := member
    obtain ⟨t, head⟩ := writeMembers_head name v members
    exact ⟨'"', t ++ [.char '\x7d'], by rw [write, head]; rfl, by decide⟩

theorem decode_write {members : List (Text × Value)} (form : EncodingForm)
    (lossless : isLossless (.object members) = true) :
    Encoding.decode (Encoding.encode form (write (.object members))) =
      .ok (write (.object members)) := by
  obtain ⟨c, t, head, ascii⟩ := write_object_head members
  have whole := write_hasSurrogate lossless
  rw [head] at whole ⊢
  exact Encoding.decode_encode form (by decide) ascii whole

end Json

/-! ## Blobs -/

namespace Provider

/-- The second value gives the first as a blob: as it is, as its JSON text, or as the octets of that
text in one of the encoding forms, without a mark of their order. -/
inductive Gives (v : Value) : Value → Prop where
  | decoded : Gives v v
  | text : Gives v (.text (Json.write v))
  | octets (form : EncodingForm) : Gives v (.bytes (Encoding.encode form (Json.write v)))

/-- An object is read from each of its forms. -/
theorem readBlob_of_gives (platform : Text) {members : List (Text × Value)}
    (lossless : Json.isLossless (.object members) = true)
    (within : (Value.object members).depth ≤ Json.assumedDepth) {blob : Value}
    (gives : Gives (.object members) blob) : readBlob platform blob = .ok (.object members) := by
  cases gives with
  | decoded => rfl
  | text =>
    have read := Json.parse_write lossless within
    simp only [readBlob, read]
    rfl
  | octets form =>
    have decoded := Json.decode_write form lossless
    have read := Json.parseWithin_write lossless within
    simp only [readBlob, decoded, read]
    rfl

theorem configuredSize_congr (platform : Text) (model : Resource.Model Text) {blob other : Value}
    (present : blob ≠ .null) (present' : other ≠ .null)
    (same : readBlob platform blob = readBlob platform other) :
    configuredSize platform model blob = configuredSize platform model other := by
  rw [configuredSize.eq_2 platform model blob present, configuredSize.eq_2 platform model other present',
    same]

/-- The decoder of a platform ends in the same way, with an instance type or with a failure in all its
particulars, in whatever form it is given an object. -/
theorem configuredSize_of_gives (platform : Text) (model : Resource.Model Text)
    {members : List (Text × Value)} (lossless : Json.isLossless (.object members) = true)
    (within : (Value.object members).depth ≤ Json.assumedDepth) {blob : Value}
    (gives : Gives (.object members) blob) :
    configuredSize platform model blob = configuredSize platform model (.object members) := by
  have present : blob ≠ .null := by cases gives <;> exact nofun
  refine configuredSize_congr platform model present nofun ?_
  rw [readBlob_of_gives platform lossless within gives,
    readBlob_of_gives platform lossless within .decoded]

/-- Both decoders ignore the form of a blob that is nested at most five hundred deep. -/
theorem decoders_ignore_form {members : List (Text × Value)}
    (lossless : Json.isLossless (.object members) = true)
    (within : (Value.object members).depth ≤ 500) {blob : Value}
    (gives : Gives (.object members) blob) :
    decodeAws blob = decodeAws (.object members) ∧ decodeGcp blob = decodeGcp (.object members) := by
  have room : (Value.object members).depth ≤ Json.assumedDepth := Nat.le_trans within (by decide)
  constructor
  · exact configuredSize_of_gives aws Resource.awsSize lossless room gives
  · exact configuredSize_of_gives gcp Resource.gcpSize lossless room gives

/-- An instance type with a letter beyond the basic plane, written in UTF-16. -/
theorem decoders_ignore_octets_of_astral_type :
    let members : List (Text × Value) :=
      [(Text.ofString "instanceType", .text (Text.ofString "m5.𝔵large")),
        (Text.ofString "blockDevices", .list [.object [(Text.ofString "ebs", .null)], .int (-120)])]
    let blob := Value.bytes (Encoding.encode (.utf16 .big) (Json.write (.object members)))
    decodeAws blob = decodeAws (.object members) ∧ decodeGcp blob = decodeGcp (.object members) := by
  intro members blob
  exact decoders_ignore_form (by decide +kernel) (by decide +kernel) (.octets (.utf16 .big))

end Provider

end ControlPlaneMetrics
