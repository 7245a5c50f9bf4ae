import ControlPlaneMetrics.Proofs.Declared

/-!
Shapes: what is asked of a value as a table, field by field and in order. Which values fit a shape,
which problems a value has, and which of two problems comes first are read off the table. A check
conforms to a shape if it accepts what fits and gives all problems of what does not, in the order of
the fields. The checks that a schema is put together from conform to the shapes that are put
together in the same way.
-/
namespace ControlPlaneMetrics

open Schema

namespace Schema

/-! ## Shapes -/

/-- A field of a record and what is asked of it. -/
structure Slot (σ : Type) where
  field : Field
  required : Bool
  shape : σ

/-- What is asked of a value. -/
inductive Shape where
  /-- A text, or octets that spell one. -/
  | text
  /-- What is read as an integer that is not negative. -/
  | count
  | anything
  /-- Null, or a value of the shape. -/
  | nullable (shape : Shape)
  /-- An object with fields in this order; members of other names do not count. -/
  | record (name : Text) (slots : List (Slot Shape))

/-- The names under which a field can be given. -/
def Field.names (field : Field) : List Text := [field.wire, field.own]

/-- The name under which an object gives the field. -/
def Field.nameIn (field : Field) (members : List (Text × Value)) : Text :=
  if field.wire ∈ members.map (·.1) then field.wire else field.own

/-- The value is of the shape. -/
inductive Fits : Shape → Value → Prop where
  | text {v : Value} {t : Text} : v.spelled? = some t → Fits .text v
  | count {v : Value} {n : Int} : Coercion.integer v.scalar = .ok n → 0 ≤ n → Fits .count v
  | anything {v : Value} : Fits .anything v
  | null {shape : Shape} : Fits (.nullable shape) .null
  | present {shape : Shape} {v : Value} : Fits shape v → Fits (.nullable shape) v
  | record {name : Text} {slots : List (Slot Shape)} {members : List (Text × Value)} :
      (∀ slot ∈ slots, slot.field.of? (.object members) = none → slot.required = false) →
      (∀ slot ∈ slots, ∀ v, slot.field.of? (.object members) = some v → Fits slot.shape v) →
      Fits (.record name slots) (.object members)

/-- A problem that the value has as one of the shape. -/
inductive Violates : Shape → Value → Problem → Prop where
  | notText {v : Value} : (∀ t, v ≠ .text t) → (∀ octets, v ≠ .bytes octets) →
      Violates .text v ⟨[], .notText⟩
  | notUnicode {octets : List UInt8} : Encoding.utf8? octets = none →
      Violates .text (.bytes octets) ⟨[], .textNotUnicode⟩
  | notInteger {v : Value} {flaw : Flaw} : Coercion.integer v.scalar = .error flaw →
      Violates .count v ⟨[], flaw⟩
  | belowZero {v : Value} {n : Int} : Coercion.integer v.scalar = .ok n → n < 0 →
      Violates .count v ⟨[], .belowZero⟩
  | present {shape : Shape} {v : Value} {problem : Problem} : v.isNull = false →
      Violates shape v problem → Violates (.nullable shape) v problem
  | notRecord {name : Text} {slots : List (Slot Shape)} {v : Value} : v.isObject = false →
      Violates (.record name slots) v ⟨[], .notRecord name⟩
  | missing {name : Text} {slots : List (Slot Shape)} {members : List (Text × Value)}
      {slot : Slot Shape} : slot ∈ slots → slot.required = true →
      slot.field.of? (.object members) = none →
      Violates (.record name slots) (.object members) ⟨[slot.field.wire], .missing⟩
  | inside {name : Text} {slots : List (Slot Shape)} {members : List (Text × Value)}
      {slot : Slot Shape} {v : Value} {problem : Problem} : slot ∈ slots →
      slot.field.of? (.object members) = some v → Violates slot.shape v problem →
      Violates (.record name slots) (.object members)
        (problem.under (slot.field.nameIn members))

/-- Of two locations in a value of the shape, the one whose field comes first. -/
inductive Precedes : Shape → List Text → List Text → Prop where
  | nullable {shape : Shape} {p q : List Text} : Precedes shape p q →
      Precedes (.nullable shape) p q
  | within {name used : Text} {slots : List (Slot Shape)} {slot : Slot Shape} {p q : List Text} :
      slot ∈ slots → used ∈ slot.field.names → Precedes slot.shape p q →
      Precedes (.record name slots) (used :: p) (used :: q)
  | apart {name used other : Text} {slots : List (Slot Shape)} {first second : Slot Shape}
      {p q : List Text} : [first, second].Sublist slots → used ∈ first.field.names →
      other ∈ second.field.names → Precedes (.record name slots) (used :: p) (other :: q)

/-- No name can stand for two fields of a record. -/
inductive Distinct : Shape → Prop where
  | text : Distinct .text
  | count : Distinct .count
  | anything : Distinct .anything
  | nullable {shape : Shape} : Distinct shape → Distinct (.nullable shape)
  | record {name : Text} {slots : List (Slot Shape)} :
      slots.Pairwise (fun first second =>
        ∀ name ∈ first.field.names, name ∉ second.field.names) →
      (∀ slot ∈ slots, Distinct slot.shape) → Distinct (.record name slots)

theorem Precedes.irrefl {shape : Shape} (distinct : Distinct shape) (location : List Text) :
    ¬ Precedes shape location location := by
  suffices ∀ p q, Precedes shape p q → p ≠ q from fun self => this _ _ self rfl
  intro p q precedes
  induction precedes with
  | nullable _ ih =>
    cases distinct with
    | nullable distinct => exact ih distinct
  | within member _ _ ih =>
    cases distinct with
    | record _ inner =>
      intro same
      exact ih (inner _ member) (List.cons.inj same).2
  | apart ordered used other =>
    cases distinct with
    | record apart _ =>
      intro same
      obtain ⟨rfl, -⟩ := List.cons.inj same
      have apart := List.rel_of_pairwise_cons (apart.sublist ordered) (List.mem_singleton_self _)
      exact apart _ used other

/-- Where two problems are never one after the other, none is there twice. -/
theorem nodup_of_precedes {shape : Shape} (distinct : Distinct shape) {problems : List Problem}
    (ordered : (problems.map (·.location)).Pairwise (Precedes shape)) :
    (problems.map (·.location)).Nodup := by
  refine ordered.imp fun {first second} precedes same => ?_
  exact Precedes.irrefl distinct second (same ▸ precedes)

theorem not_fits_of_violates {shape : Shape} {v : Value} {problem : Problem}
    (violates : Violates shape v problem) : ¬ Fits shape v := by
  intro fits
  induction violates with
  | @notText v noText noOctets =>
    cases fits with
    | text spelled =>
      cases v with
      | text t => exact noText t rfl
      | bytes octets => exact noOctets octets rfl
      | _ => cases spelled
  | notUnicode unread =>
    cases fits with
    | text spelled =>
      rw [Value.spelled?, unread] at spelled
      cases spelled
  | notInteger refused =>
    cases fits with
    | count read _ =>
      rw [refused] at read
      cases read
  | belowZero read below =>
    cases fits with
    | count read' notBelow =>
      rw [read] at read'
      cases read'
      exact absurd notBelow (Int.not_le.mpr below)
  | present present _ ih =>
    cases fits with
    | null => cases present
    | present fits => exact ih fits
  | notRecord noObject =>
    cases fits
    cases noObject
  | missing member required absent =>
    cases fits with
    | record optional _ =>
      rw [optional _ member absent] at required
      cases required
  | inside member found _ ih =>
    cases fits with
    | record _ inner => exact ih (inner _ member _ found)

/-! ## Checks -/

/-- These are the problems of the value as one of the shape, in the order of their fields. -/
structure Lists (shape : Shape) (v : Value) (problems : List Problem) : Prop where
  complete : ∀ problem, problem ∈ problems ↔ Violates shape v problem
  ordered : (problems.map (·.location)).Pairwise (Precedes shape)

/-- What the check of a value as one of the shape comes to: a value if all is well, and else all its
problems. -/
inductive Judged (shape : Shape) (v : Value) : Checked α → Prop where
  | accepted {a : α} : Fits shape v → Judged shape v (.ok a)
  | refused {problems : List Problem} : problems ≠ [] → Lists shape v problems →
      Judged shape v (.error problems)

/-- The check decides whether a value is of the shape. -/
def Conforms (check : Value → Checked α) (shape : Shape) : Prop := ∀ v, Judged shape v (check v)

/-- The check of an object's members decides whether they fill the slots. -/
def ConformsMembers (check : List (Text × Value) → Checked α) (slots : List (Slot Shape)) : Prop :=
  ∀ name members, Judged (.record name slots) (.object members) (check members)

theorem Judged.map {shape : Shape} {v : Value} {checked : Checked α} (f : α → β)
    (judged : Judged shape v checked) : Judged shape v (checked.map f) := by
  cases judged with
  | accepted fits => exact .accepted fits
  | refused some lists => exact .refused some lists

theorem Judged.flawed {shape : Shape} {v : Value} {problem : Problem}
    (only : ∀ other, Violates shape v other ↔ other = problem) :
    Judged shape v (.error [problem] : Checked α) := by
  refine .refused (List.cons_ne_nil _ _) ⟨fun other => ?_, List.pairwise_singleton _ _⟩
  rw [only, List.mem_singleton]

theorem Fits.lists {shape : Shape} {v : Value} (fits : Fits shape v) : Lists shape v [] where
  complete problem := by
    constructor
    · intro member
      cases member
    · intro violates
      exact absurd fits (not_fits_of_violates violates)
  ordered := .nil

theorem Judged.split {shape : Shape} {v : Value} {checked : Checked α}
    (judged : Judged shape v checked) : (∃ a, checked = .ok a ∧ Fits shape v) ∨
      ∃ problems, checked = .error problems ∧ problems ≠ [] ∧ Lists shape v problems := by
  cases judged with
  | @accepted a fits => exact .inl ⟨a, rfl, fits⟩
  | @refused problems some lists => exact .inr ⟨problems, rfl, some, lists⟩

/-- A value that has a problem is not of the shape. -/
theorem Lists.not_fits {shape : Shape} {v : Value} {problems : List Problem}
    (lists : Lists shape v problems) (some : problems ≠ []) : ¬ Fits shape v := by
  obtain ⟨problem, member⟩ := List.exists_mem_of_ne_nil problems some
  exact not_fits_of_violates ((lists.complete problem).mp member)

theorem scalar_eq_error {coerce : Scalar → Except Flaw α} {v : Value} {flaw : Flaw}
    (refused : coerce v.scalar = .error flaw) : scalar coerce v = .error [⟨[], flaw⟩] := by
  simp only [scalar, refused, Checked.flawed]

theorem scalar_eq_ok_iff {coerce : Scalar → Except Flaw α} {v : Value} {a : α} :
    scalar coerce v = .ok a ↔ coerce v.scalar = .ok a := by
  cases outcome : coerce v.scalar <;> simp [scalar, outcome, Checked.flawed]

theorem nonNegativeInteger_eq_ok_iff {s : Scalar} {n : Int} :
    Coercion.nonNegativeInteger s = .ok n ↔ Coercion.integer s = .ok n ∧ 0 ≤ n := by
  unfold Coercion.nonNegativeInteger
  cases read : Coercion.integer s with
  | error flaw => simp [Except.bind]
  | ok m =>
    simp only [Except.bind, Except.ok.injEq]
    split <;> simp <;> omega

/-- A coercion that lets null pass is one for the values that are not null. -/
theorem scalar_optional (coerce : Scalar → Except Flaw α) (v : Value) :
    scalar (Coercion.optional coerce) v = nullable (scalar coerce) v := by
  cases v with
  | null => rfl
  | _ =>
    simp only [scalar, nullable, Value.scalar, Coercion.optional]
    generalize coerce _ = outcome
    cases outcome <;> rfl

/-! ### Fields -/

theorem Field.find?_eq (field : Field) (members : List (Text × Value)) :
    field.find? members = (field.of? (.object members)).map fun v => (field.nameIn members, v) := by
  have wire := lookup?_isSome_iff field.wire members
  cases found : lookup? field.wire members with
  | some v =>
    have member := wire.mp (by rw [found]; rfl)
    simp [find?, of?, Value.member?, nameIn, found, member]
  | none =>
    have absent : field.wire ∉ members.map (·.1) := fun member => by
      simpa [found] using wire.mpr member
    simp [find?, of?, Value.member?, nameIn, found, absent]

theorem Field.nameIn_mem (field : Field) (members : List (Text × Value)) :
    field.nameIn members ∈ field.names := by
  unfold nameIn names
  split <;> simp

/-- A problem of the field that fills a slot, or of its absence. -/
def Slot.Violated (slot : Slot Shape) (members : List (Text × Value)) (problem : Problem) : Prop :=
  (slot.required = true ∧ slot.field.of? (.object members) = none ∧
    problem = ⟨[slot.field.wire], .missing⟩) ∨
  ∃ v inner, slot.field.of? (.object members) = some v ∧ Violates slot.shape v inner ∧
    problem = inner.under (slot.field.nameIn members)

theorem violates_record_iff {name : Text} {slots : List (Slot Shape)}
    {members : List (Text × Value)} {problem : Problem} :
    Violates (.record name slots) (.object members) problem ↔
      ∃ slot ∈ slots, slot.Violated members problem := by
  constructor
  · intro violates
    cases violates with
    | notRecord noObject => cases noObject
    | missing member required absent => exact ⟨_, member, .inl ⟨required, absent, rfl⟩⟩
    | inside member found inner => exact ⟨_, member, .inr ⟨_, _, found, inner, rfl⟩⟩
  · rintro ⟨slot, member, ⟨required, absent, rfl⟩ | ⟨v, inner, found, violates, rfl⟩⟩
    · exact .missing member required absent
    · exact .inside member found violates

theorem fits_record_iff {name : Text} {slots : List (Slot Shape)}
    {members : List (Text × Value)} : Fits (.record name slots) (.object members) ↔
      ∀ slot ∈ slots, (slot.field.of? (.object members) = none → slot.required = false) ∧
        ∀ v, slot.field.of? (.object members) = some v → Fits slot.shape v := by
  constructor
  · intro fits
    cases fits with
    | record optional inner => exact fun slot member => ⟨optional slot member, inner slot member⟩
  · intro each
    exact .record (fun slot member => (each slot member).1) fun slot member => (each slot member).2

/-- A problem of a slot is at a place that begins with a name of its field. -/
theorem Slot.Violated.location {slot : Slot Shape} {members : List (Text × Value)}
    {problem : Problem} (violated : slot.Violated members problem) :
    ∃ used ∈ slot.field.names, ∃ rest, problem.location = used :: rest := by
  rcases violated with ⟨_, _, rfl⟩ | ⟨_, inner, _, _, rfl⟩
  · exact ⟨slot.field.wire, List.mem_cons_self, [], rfl⟩
  · exact ⟨_, slot.field.nameIn_mem members, inner.location, rfl⟩

theorem Precedes.mono {name : Text} {slots more : List (Slot Shape)} {p q : List Text}
    (sub : slots.Sublist more) (precedes : Precedes (.record name slots) p q) :
    Precedes (.record name more) p q := by
  cases precedes with
  | within member used inner => exact .within (sub.subset member) used inner
  | apart ordered used other => exact .apart (ordered.trans sub) used other

theorem Fits.cons {name : Text} {slot : Slot Shape} {slots : List (Slot Shape)}
    {members : List (Text × Value)} (one : Fits (.record name [slot]) (.object members))
    (many : Fits (.record name slots) (.object members)) :
    Fits (.record name (slot :: slots)) (.object members) := by
  rw [fits_record_iff] at one many ⊢
  exact List.forall_mem_cons.mpr ⟨one slot List.mem_cons_self, many⟩

/-- The problems of one slot come before those of the slots behind it. -/
theorem Lists.append {name : Text} {slot : Slot Shape} {slots : List (Slot Shape)}
    {members : List (Text × Value)} {problems more : List Problem}
    (one : Lists (.record name [slot]) (.object members) problems)
    (many : Lists (.record name slots) (.object members) more) :
    Lists (.record name (slot :: slots)) (.object members) (problems ++ more) where
  complete problem := by
    rw [List.mem_append, one.complete, many.complete]
    simp only [violates_record_iff, List.mem_cons, List.not_mem_nil, or_false, exists_eq_left,
      or_and_right, exists_or]
  ordered := by
    rw [List.map_append, List.pairwise_append]
    refine ⟨one.ordered.imp (.mono (by simp)), many.ordered.imp (.mono (by simp)), ?_⟩
    intro p here q there
    obtain ⟨first, member, rfl⟩ := List.mem_map.mp here
    obtain ⟨second, member', rfl⟩ := List.mem_map.mp there
    obtain ⟨_, only, violated⟩ := violates_record_iff.mp ((one.complete first).mp member)
    obtain ⟨other, behind, violated'⟩ := violates_record_iff.mp ((many.complete second).mp member')
    obtain rfl := List.mem_singleton.mp only
    obtain ⟨used, own, _, place⟩ := violated.location
    obtain ⟨used', own', _, place'⟩ := violated'.location
    rw [place, place']
    exact .apart (by simpa using behind) own own'

/-- The problems of a field's value are those of its slot, seen from the object. -/
theorem Lists.under {name : Text} {slot : Slot Shape} {members : List (Text × Value)} {v : Value}
    {problems : List Problem} (lists : Lists slot.shape v problems)
    (found : slot.field.of? (.object members) = some v) :
    Lists (.record name [slot]) (.object members)
      (problems.map (·.under (slot.field.nameIn members))) where
  complete problem := by
    rw [List.mem_map, violates_record_iff]
    constructor
    · rintro ⟨inner, member, rfl⟩
      exact ⟨slot, List.mem_singleton_self slot,
        .inr ⟨v, inner, found, (lists.complete inner).mp member, rfl⟩⟩
    · rintro ⟨other, only, violated⟩
      obtain rfl := List.mem_singleton.mp only
      rcases violated with ⟨_, absent, _⟩ | ⟨w, inner, found', violates, rfl⟩
      · simp [found] at absent
      · obtain rfl := Option.some.inj (found.symm.trans found')
        exact ⟨inner, (lists.complete inner).mpr violates, rfl⟩
  ordered := by
    rw [List.map_map]
    have inner := List.pairwise_map.mp lists.ordered
    refine List.pairwise_map.mpr (inner.imp fun precedes => ?_)
    exact .within List.mem_cons_self (slot.field.nameIn_mem members) precedes

/-! ### Parts of checks -/

theorem Conforms.nullable {check : Value → Checked α} {shape : Shape}
    (conforms : Conforms check shape) : Conforms (Schema.nullable check) (.nullable shape) := by
  intro v
  cases null : v.isNull with
  | true =>
    obtain rfl := Value.eq_null_of_isNull null
    exact .accepted .null
  | false =>
    have passed : Schema.nullable check v = (check v).map some := by
      cases v <;> first | rfl | cases null
    rw [passed]
    apply Judged.map
    rcases (conforms v).split with ⟨a, checked, fits⟩ | ⟨problems, checked, some, lists⟩
    · rw [checked]
      exact .accepted (.present fits)
    · rw [checked]
      refine .refused some ⟨fun problem => (lists.complete problem).trans ?_,
        lists.ordered.imp .nullable⟩
      constructor
      · exact .present null
      · rintro ⟨⟩
        assumption

theorem Conforms.record {check : List (Text × Value) → Checked α} {slots : List (Slot Shape)}
    (name : Text) (conforms : ConformsMembers check slots) :
    Conforms (Schema.record name check) (.record name slots) := by
  intro v
  cases object : v.isObject with
  | true =>
    cases v with
    | object members => exact conforms name members
    | _ => cases object
  | false =>
    have refused : Schema.record name check v = .error [⟨[], .notRecord name⟩] := by
      cases v <;> first | rfl | cases object
    rw [refused]
    refine .flawed fun other => ⟨fun violates => ?_, fun same => same ▸ .notRecord object⟩
    cases violates with
    | notRecord _ => rfl
    | missing | inside => cases object

theorem ConformsMembers.map {check : List (Text × Value) → Checked α} {slots : List (Slot Shape)}
    (conforms : ConformsMembers check slots) (f : α → β) :
    ConformsMembers (fun members => (check members).map f) slots :=
  fun name members => (conforms name members).map f

/-- A field that is there is as its value is; one that is absent has to be judged on its own. -/
theorem ConformsMembers.read {check : Value → Checked α} {absent : Checked α} (slot : Slot Shape)
    (conforms : Conforms check slot.shape)
    (judged : ∀ name members, slot.field.of? (.object members) = none →
      Judged (.record name [slot]) (.object members) absent) :
    ConformsMembers (slot.field.read absent check) [slot] := by
  intro name members
  rw [Field.read, slot.field.find?_eq]
  cases found : slot.field.of? (.object members) with
  | none => exact judged name members found
  | some v =>
    simp only [Option.map_some]
    rcases (conforms v).split with ⟨a, checked, fits⟩ | ⟨problems, checked, some, lists⟩
    · simp only [checked, Checked.under]
      exact .accepted (fits_record_iff.mpr (by simpa [found] using fits))
    · simp only [checked, Checked.under]
      exact .refused (by simpa using some) (lists.under found)

theorem ConformsMembers.required {check : Value → Checked α} {shape : Shape} (field : Field)
    (conforms : Conforms check shape) :
    ConformsMembers (field.required check) [⟨field, true, shape⟩] := by
  refine .read ⟨field, true, shape⟩ conforms fun name members absent => .flawed fun other => ?_
  rw [violates_record_iff]
  simp [Slot.Violated, absent]

theorem ConformsMembers.withDefault {check : Value → Checked α} {shape : Shape} (field : Field)
    (default : α) (conforms : Conforms check shape) :
    ConformsMembers (field.withDefault default check) [⟨field, false, shape⟩] := by
  refine .read ⟨field, false, shape⟩ conforms fun name members absent => ?_
  refine .accepted (fits_record_iff.mpr fun slot member => ?_)
  obtain rfl := List.mem_singleton.mp member
  exact ⟨fun _ => rfl, fun v found => by simp [absent] at found⟩

theorem ConformsMembers.both {first : List (Text × Value) → Checked α}
    {rest : List (Text × Value) → Checked β} {slot : Slot Shape} {slots : List (Slot Shape)}
    (conforms : ConformsMembers first [slot]) (others : ConformsMembers rest slots) :
    ConformsMembers (fun members => Checked.both (first members) (rest members))
      (slot :: slots) := by
  intro name members
  rcases (conforms name members).split with
    ⟨a, here, fits⟩ | ⟨problems, here, some, lists⟩ <;>
  rcases (others name members).split with
    ⟨b, there, fits'⟩ | ⟨problems', there, some', lists'⟩ <;>
  simp only [here, there, Checked.both]
  · exact .accepted (fits.cons fits')
  · exact .refused some' (fits.lists.append lists')
  · have lists := lists.append fits'.lists
    rw [List.append_nil] at lists
    exact .refused some lists
  · exact .refused (by simp [some]) (lists.append lists')

/-! ### What is read -/

theorem ReadsMembers.required {check : Value → Checked α} {read : α → β} {path : List Field}
    {sense : Option Value → β} (field : Field) (present : Reads check read path sense) :
    ReadsMembers (field.required check) read (field :: path) sense := by
  intro members a checked
  rw [Field.required, Field.read, field.find?_eq] at checked
  rw [Value.along?]
  cases found : field.of? (.object members) with
  | none =>
    rw [found] at checked
    cases checked
  | some v =>
    rw [found] at checked
    simp only [Option.map_some] at checked
    cases inner : check v with
    | error problems =>
      rw [inner] at checked
      cases checked
    | ok b =>
      rw [inner] at checked
      cases checked
      exact present v a inner

end Schema

end ControlPlaneMetrics
