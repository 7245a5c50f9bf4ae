import ControlPlaneMetrics.Proofs.Conformity
import ControlPlaneMetrics.Proofs.Verdict
import Mathlib.Data.List.Pairwise

/-!
Members that no field names are ignored, wherever they are put. Two values that differ only in such
members, at whatever level and however many, pass the same checks, have the same problems, and are
read as machine sets that differ at most inside the provider's blob; and blobs that differ only so
are read as the same size. A report of problems is worded for a value, and so may show such members.
-/
namespace ControlPlaneMetrics

open Schema

namespace Schema

/-! ## Values that differ in unknown members -/

/-- The second value is the first with members put in that no field of their level names. What is
of no shape of its own is enriched inside, if it is an object, as `free` says. -/
inductive Enriched (free : List (Text × Value) → List (Text × Value) → Prop) :
    Shape → Value → Value → Prop where
  | same {shape : Shape} {v : Value} : Enriched free shape v v
  | trans {shape : Shape} {v w x : Value} : Enriched free shape v w → Enriched free shape w x →
      Enriched free shape v x
  | inserted {record name : Text} {slots : List (Slot Shape)} {before after : List (Text × Value)}
      {v : Value} : (∀ slot ∈ slots, name ∉ slot.field.names) →
      Enriched free (.record record slots) (.object (before ++ after))
        (.object (before ++ (name, v) :: after))
  | inside {record name : Text} {slots : List (Slot Shape)} {before after : List (Text × Value)}
      {v w : Value} : (∀ slot ∈ slots, name ∈ slot.field.names → Enriched free slot.shape v w) →
      Enriched free (.record record slots) (.object (before ++ (name, v) :: after))
        (.object (before ++ (name, w) :: after))
  | nullable {shape : Shape} {v w : Value} : Enriched free shape v w →
      Enriched free (.nullable shape) v w
  | anything {members others : List (Text × Value)} : free members others →
      Enriched free .anything (.object members) (.object others)

/-! ### What is found in them -/

theorem Field.nameIn_congr (field : Field) {members others : List (Text × Value)}
    (same : field.wire ∈ members.map (·.1) ↔ field.wire ∈ others.map (·.1)) :
    field.nameIn members = field.nameIn others := by
  simp only [nameIn, same]

theorem lookup?_other {key name : Text} (other : key ≠ name) (before after : List (Text × Value))
    (v : Value) : lookup? key (before ++ (name, v) :: after) = lookup? key (before ++ after) := by
  simp [lookup?_append, lookup?, Ne.symm other]

theorem related_or {related : Value → Value → Prop} {a? b? c? d? : Option Value}
    (first : Option.Rel related a? b?) (second : Option.Rel related c? d?) :
    Option.Rel related (a?.or c?) (b?.or d?) := by
  cases first with
  | some near => exact .some near
  | none => exact second

/-- The field is found alike in both: not at all, or under one name and with related values. -/
structure Field.Agrees (field : Field) (related : Value → Value → Prop)
    (members others : List (Text × Value)) : Prop where
  name : field.nameIn members = field.nameIn others
  value : Option.Rel related (field.of? (.object members)) (field.of? (.object others))

namespace Field.Agrees

variable {field : Field} {related : Value → Value → Prop}

theorem refl (same : ∀ v, related v v) (members : List (Text × Value)) :
    field.Agrees related members members := by
  refine ⟨rfl, ?_⟩
  cases field.of? (.object members) with
  | none => exact .none
  | some v => exact .some (same v)

theorem trans (chains : ∀ {v w x}, related v w → related w x → related v x)
    {members others last : List (Text × Value)} (first : field.Agrees related members others)
    (second : field.Agrees related others last) : field.Agrees related members last := by
  refine ⟨first.name.trans second.name, ?_⟩
  have one := first.value
  have two := second.value
  generalize field.of? (.object members) = v?, field.of? (.object others) = w?,
    field.of? (.object last) = x? at one two
  cases one with
  | none =>
    cases two
    exact .none
  | some near =>
    cases two with
    | some far => exact .some (chains near far)

theorem inserted (same : ∀ v, related v v) {name : Text} (unknown : name ∉ field.names)
    (before after : List (Text × Value)) (v : Value) :
    field.Agrees related (before ++ after) (before ++ (name, v) :: after) := by
  have wire : field.wire ≠ name := fun equal => unknown (equal ▸ List.mem_cons_self)
  have own : field.own ≠ name := fun equal =>
    unknown (equal ▸ List.mem_cons_of_mem _ List.mem_cons_self)
  refine ⟨field.nameIn_congr (by simp [wire]), ?_⟩
  have found : field.of? (.object (before ++ (name, v) :: after)) =
      field.of? (.object (before ++ after)) := by
    simp only [Field.of?, Value.member?, lookup?_other wire, lookup?_other own]
  rw [found]
  exact (refl same _).value

theorem inside (same : ∀ v, related v v) {name : Text} {v w : Value}
    (known : name ∈ field.names → related v w) (before after : List (Text × Value)) :
    field.Agrees related (before ++ (name, v) :: after) (before ++ (name, w) :: after) := by
  refine ⟨field.nameIn_congr (by simp), ?_⟩
  have found (key : Text) (mine : key ∈ field.names) :
      Option.Rel related (lookup? key (before ++ (name, v) :: after))
        (lookup? key (before ++ (name, w) :: after)) := by
    simp only [lookup?_append, lookup?]
    cases lookup? key before with
    | some x => exact .some (same x)
    | none =>
      split
      · next equal => exact .some (known (equal ▸ mine))
      · cases lookup? key after with
        | some x => exact .some (same x)
        | none => exact .none
  have wire := found field.wire List.mem_cons_self
  have own := found field.own (List.mem_cons_of_mem _ List.mem_cons_self)
  exact related_or wire own

end Field.Agrees

namespace Enriched

variable {free : List (Text × Value) → List (Text × Value) → Prop}

/-- Nothing is put into what is no object. -/
theorem objects {shape : Shape} {v w : Value} (enriched : Enriched free shape v w) :
    v = w ∨ ∃ members others, v = .object members ∧ w = .object others := by
  induction enriched with
  | same => exact .inl rfl
  | trans _ _ first second =>
    rcases first with rfl | ⟨members, middle, rfl, rfl⟩
    · exact second
    · rcases second with rfl | ⟨_, others, _, rfl⟩
      · exact .inr ⟨members, _, rfl, rfl⟩
      · exact .inr ⟨members, others, rfl, rfl⟩
  | inserted | inside | anything => exact .inr ⟨_, _, rfl, rfl⟩
  | nullable _ ih => exact ih

theorem isNull_eq {shape : Shape} {v w : Value} (enriched : Enriched free shape v w) :
    v.isNull = w.isNull := by
  rcases enriched.objects with rfl | ⟨members, others, rfl, rfl⟩ <;> rfl

theorem of_nullable {shape : Shape} {v w : Value}
    (enriched : Enriched free (.nullable shape) v w) : Enriched free shape v w := by
  generalize whole : Shape.nullable shape = outer at enriched
  induction enriched with
  | same => exact .same
  | trans _ _ first second => exact .trans (first whole) (second whole)
  | nullable enriched => cases whole; exact enriched
  | inserted | inside | anything => cases whole

theorem eq_of_text {v w : Value} (enriched : Enriched free .text v w) : v = w := by
  generalize whole : Shape.text = shape at enriched
  induction enriched with
  | same => rfl
  | trans _ _ first second => exact (first whole).trans (second whole)
  | inserted | inside | nullable | anything => cases whole

theorem eq_of_count {v w : Value} (enriched : Enriched free .count v w) : v = w := by
  generalize whole : Shape.count = shape at enriched
  induction enriched with
  | same => rfl
  | trans _ _ first second => exact (first whole).trans (second whole)
  | inserted | inside | nullable | anything => cases whole

/-- Each field of a record is found alike in it. -/
theorem agrees {record : Text} {slots : List (Slot Shape)} {members others : List (Text × Value)}
    (enriched : Enriched free (.record record slots) (.object members) (.object others)) :
    ∀ slot ∈ slots, slot.field.Agrees (Enriched free slot.shape) members others := by
  intro slot member
  generalize whole : Shape.record record slots = shape, start : Value.object members = v,
    last : Value.object others = w at enriched
  induction enriched generalizing members others with
  | same =>
    cases start
    cases last
    exact .refl (fun _ => .same) _
  | trans first _ ih ih' =>
    cases start
    rcases first.objects with rfl | ⟨_, middle, _, rfl⟩
    · exact ih' whole rfl last
    · exact (ih whole rfl rfl).trans .trans (ih' whole rfl last)
  | inserted unknown =>
    cases whole
    cases start
    cases last
    exact .inserted (fun _ => .same) (unknown slot member) _ _ _
  | inside known =>
    cases whole
    cases start
    cases last
    exact .inside (fun _ => .same) (known slot member) _ _
  | nullable | anything => cases whole

variable {record : Text} {slots : List (Slot Shape)} {members : List (Text × Value)}

/-- A member of an unknown name can be written, whether there is one or not. -/
theorem assigned (name : Text) (unknown : ∀ slot ∈ slots, name ∉ slot.field.names) (x : Value) :
    Enriched free (.record record slots) (.object members) (.object (write name x members)) := by
  cases found : lookup? name members with
  | none =>
    have new : name ∉ members.map (·.1) := by
      rw [← lookup?_isSome_iff, found]
      exact Bool.false_ne_true
    have last : Enriched free (.record record slots) (.object (members ++ []))
        (.object (members ++ [(name, x)])) := .inserted unknown
    rwa [List.append_nil, ← write_new x new] at last
  | some v =>
    obtain ⟨before, after, same, written⟩ := write_present x found
    rw [written, same]
    exact .inside fun slot member named => absurd named (unknown slot member)

/-- A member of a known name can be enriched as its field says. -/
theorem updated (name : Text) {slot : Slot Shape} {v w : Value} (member : slot ∈ slots)
    (apart : slots.Pairwise fun first second =>
      ∀ name ∈ first.field.names, name ∉ second.field.names)
    (named : name ∈ slot.field.names) (found : lookup? name members = some v)
    (inner : Enriched free slot.shape v w) :
    Enriched free (.record record slots) (.object members) (.object (write name w members)) := by
  obtain ⟨before, after, same, written⟩ := write_present w found
  rw [written, same]
  refine .inside fun other member' named' => ?_
  -- no other field goes by this name
  by_cases equal : other = slot
  · exact equal ▸ inner
  · have symmetric : Std.Symm fun first second : Slot Shape =>
        ∀ name ∈ first.field.names, name ∉ second.field.names :=
      ⟨fun _ _ disjoint name mine yours => disjoint name yours mine⟩
    exact absurd named (apart.forall member' member equal name named')

end Enriched

/-! ### What is made of them -/

/-- Two checks come to related values, or to the same problems. -/
inductive Checked.Matches (related : α → α → Prop) : Checked α → Checked α → Prop where
  | accepted {a b : α} : related a b → Checked.Matches related (.ok a) (.ok b)
  | refused {problems : List Problem} : Checked.Matches related (.error problems) (.error problems)

namespace Checked.Matches

variable {related : α → α → Prop} {first second : Checked α}

theorem refl (same : ∀ a, related a a) (checked : Checked α) : Matches related checked checked := by
  cases checked with
  | ok a => exact .accepted (same a)
  | error => exact .refused

theorem map {related' : β → β → Prop} {f : α → β}
    (carries : ∀ a b, related a b → related' (f a) (f b)) (both : Matches related first second) :
    Matches related' (first.map f) (second.map f) := by
  cases both with
  | accepted near => exact .accepted (carries _ _ near)
  | refused => exact .refused

theorem under (name : Text) (both : Matches related first second) :
    Matches related (first.under name) (second.under name) := by
  cases both with
  | accepted near => exact .accepted near
  | refused => exact .refused

theorem both {related' : β → β → Prop} {third fourth : Checked β}
    (one : Matches related first second) (other : Matches related' third fourth) :
    Matches (fun p q => related p.1 q.1 ∧ related' p.2 q.2) (Checked.both first third)
      (Checked.both second fourth) := by
  cases one with
  | refused => cases other <;> exact .refused
  | accepted near =>
    cases other with
    | accepted far => exact .accepted ⟨near, far⟩
    | refused => exact .refused

end Checked.Matches

section Ignores

variable (free : List (Text × Value) → List (Text × Value) → Prop)

/-- Whatever unknown members are put into a value, the check comes to the same, or to a related
value. -/
def Ignores (check : Value → Checked α) (shape : Shape) (related : α → α → Prop) : Prop :=
  ∀ v w, Enriched free shape v w → Checked.Matches related (check v) (check w)

/-- The same of a check of members in which the fields of the slots are found alike. -/
def IgnoresMembers (check : List (Text × Value) → Checked α) (slots : List (Slot Shape))
    (related : α → α → Prop) : Prop :=
  ∀ members others,
    (∀ slot ∈ slots, slot.field.Agrees (Enriched free slot.shape) members others) →
    Checked.Matches related (check members) (check others)

variable {free} {related : α → α → Prop}

theorem Ignores.of_eq {shape : Shape} (closed : ∀ v w, Enriched free shape v w → v = w)
    (check : Value → Checked α) : Ignores free check shape (· = ·) := by
  intro v w enriched
  rw [closed v w enriched]
  exact .refl (fun _ => rfl) _

theorem Ignores.nullable {check : Value → Checked α} {shape : Shape}
    (ignores : Ignores free check shape related) :
    Ignores free (Schema.nullable check) (.nullable shape) (Option.Rel related) := by
  intro v w enriched
  have inner := enriched.of_nullable
  have split (v : Value) : Schema.nullable check v =
      if v.isNull then .ok none else (check v).map some := by
    cases v <;> rfl
  rw [split v, split w, inner.isNull_eq]
  split
  · exact .accepted .none
  · exact (ignores v w inner).map fun _ _ => .some

theorem Ignores.record {check : List (Text × Value) → Checked α} {slots : List (Slot Shape)}
    (name : Text) (ignores : IgnoresMembers free check slots related) :
    Ignores free (Schema.record name check) (.record name slots) related := by
  intro v w enriched
  cases v with
  | object members =>
    rcases enriched.objects with rfl | ⟨_, others, _, rfl⟩
    · exact ignores members members enriched.agrees
    · exact ignores members others enriched.agrees
  | _ =>
    rcases enriched.objects with rfl | ⟨members, _, other, _⟩
    · exact .refused
    · cases other

theorem IgnoresMembers.map {related' : β → β → Prop} {check : List (Text × Value) → Checked α}
    {slots : List (Slot Shape)} {f : α → β} (ignores : IgnoresMembers free check slots related)
    (carries : ∀ a b, related a b → related' (f a) (f b)) :
    IgnoresMembers free (fun members => (check members).map f) slots related' :=
  fun members others agrees => (ignores members others agrees).map carries

theorem IgnoresMembers.both {related' : β → β → Prop} {first : List (Text × Value) → Checked α}
    {rest : List (Text × Value) → Checked β} {slot : Slot Shape} {slots : List (Slot Shape)}
    (ignores : IgnoresMembers free first [slot] related)
    (others : IgnoresMembers free rest slots related') :
    IgnoresMembers free (fun members => Checked.both (first members) (rest members)) (slot :: slots)
      (fun p q => related p.1 q.1 ∧ related' p.2 q.2) := by
  intro ms ns agrees
  obtain ⟨here, there⟩ := List.forall_mem_cons.mp agrees
  exact (ignores ms ns (by simpa using here)).both (others ms ns there)

theorem IgnoresMembers.read {check : Value → Checked α} {absent : Checked α} (slot : Slot Shape)
    (missing : Checked.Matches related absent absent)
    (ignores : Ignores free check slot.shape related) :
    IgnoresMembers free (slot.field.read absent check) [slot] related := by
  intro ms ns agrees
  obtain ⟨name, value⟩ := agrees slot (List.mem_singleton_self slot)
  rw [Field.read, Field.read, slot.field.find?_eq, slot.field.find?_eq, name]
  generalize slot.field.of? (.object ms) = v?, slot.field.of? (.object ns) = w? at value
  cases value with
  | none => exact missing
  | some enriched => exact (ignores _ _ enriched).under _

theorem IgnoresMembers.required {check : Value → Checked α} {shape : Shape} (field : Field)
    (ignores : Ignores free check shape related) :
    IgnoresMembers free (field.required check) [⟨field, true, shape⟩] related :=
  .read ⟨field, true, shape⟩ .refused ignores

theorem IgnoresMembers.withDefault {check : Value → Checked α} {shape : Shape} (field : Field)
    {default : α} (same : related default default) (ignores : Ignores free check shape related) :
    IgnoresMembers free (field.withDefault default check) [⟨field, false, shape⟩] related :=
  .read ⟨field, false, shape⟩ (.accepted same) ignores

end Ignores

end Schema

/-! ## The resource -/

namespace Resource

variable (free : List (Text × Value) → List (Text × Value) → Prop)

/-- The sections differ at most in what is put into the blob. -/
structure Resembles (a b : MachineTemplate) : Prop where
  blob : Enriched free .anything a.spec.providerSpec.value b.spec.providerSpec.value
  failureDomains : a.failureDomains = b.failureDomains

/-- The templates differ at most in what is put into the blob. -/
structure TemplateResembles (a b : MachineSetTemplate) : Prop where
  machineType : a.machineType = b.machineType
  machine : Option.Rel (Resembles free) a.machine b.machine

/-- The specifications differ at most in what is put into the blob. -/
structure SpecResembles (a b : MachineSetSpec) : Prop where
  state : a.state = b.state
  replicas : a.replicas = b.replicas
  template : TemplateResembles free a.template b.template

variable {free}

theorem text_ignores : Ignores free text .text (· = ·) := .of_eq (fun _ _ => Enriched.eq_of_text) _

theorem nullableText_ignores : Ignores free nullableText (.nullable .text) (· = ·) :=
  .of_eq (fun _ _ enriched => enriched.of_nullable.eq_of_text) _

theorem nullableCount_ignores : Ignores free
    (Schema.scalar (Coercion.optional Coercion.nonNegativeInteger)) (.nullable .count) (· = ·) :=
  .of_eq (fun _ _ enriched => enriched.of_nullable.eq_of_count) _

theorem objectMeta_ignores : Ignores free objectMeta.check objectMetaShape (· = ·) := by
  refine .record _ (.map (.both (.required nameField text_ignores)
    (.both (.withDefault nsField rfl nullableText_ignores)
      (.withDefault versionField rfl nullableText_ignores))) ?_)
  rintro ⟨name, ns, version⟩ ⟨_, _, _⟩ ⟨rfl, rfl, rfl⟩
  rfl

theorem providerSpec_ignores : Ignores free providerSpec.check providerSpecShape
    fun p q => Enriched free .anything p.value q.value :=
  .record _ (.map (.withDefault valueField .same fun _ _ => .accepted) fun _ _ near => near)

theorem machineSpec_ignores : Ignores free machineSpec.check machineSpecShape
    fun s t => Enriched free .anything s.providerSpec.value t.providerSpec.value :=
  .record _ (.map (.withDefault providerSpecField .same providerSpec_ignores) fun _ _ near => near)

theorem failureDomains_ignores :
    Ignores free failureDomains.check failureDomainsShape (· = ·) := by
  refine .record _ (.map (.withDefault platformField rfl nullableText_ignores) ?_)
  rintro platform _ rfl
  rfl

theorem machineTemplate_ignores :
    Ignores free machineTemplate.check machineShape (Resembles free) := by
  refine .record _ (.map (.both (.withDefault specField .same machineSpec_ignores)
    (.withDefault failureDomainsField .none failureDomains_ignores.nullable)) ?_)
  rintro ⟨spec, domains⟩ ⟨spec', domains'⟩ ⟨near, same⟩
  refine ⟨near, ?_⟩
  cases same with
  | none => rfl
  | some same => exact congrArg some same

theorem template_ignores :
    Ignores free machineSetTemplate.check templateShape (TemplateResembles free) :=
  .record _ (.map (.both (.withDefault machineTypeField rfl text_ignores)
    (.withDefault machineField .none machineTemplate_ignores.nullable))
    fun _ _ near => ⟨near.1, near.2⟩)

theorem spec_ignores : Ignores free machineSetSpec.check specShape (SpecResembles free) :=
  .record _ (.map (.both (.withDefault stateField rfl nullableText_ignores)
    (.both (.withDefault replicasField rfl nullableCount_ignores)
      (.withDefault templateField ⟨rfl, .none⟩ template_ignores)))
    fun _ _ near => ⟨near.1, near.2.1, near.2.2⟩)

/-- Machine sets that are read from the two values differ at most in what is put into the blob. -/
theorem machineSet_ignores : Ignores free machineSet.check machineSetShape fun m n =>
    m.apiVersion = n.apiVersion ∧ m.kind = n.kind ∧ m.metadata = n.metadata ∧
      SpecResembles free m.spec n.spec :=
  .record _ (.map (.both (.withDefault apiVersionField rfl text_ignores)
    (.both (.withDefault kindField rfl text_ignores)
      (.both (.required metadataField objectMeta_ignores)
        (.withDefault specField ⟨rfl, rfl, rfl, .none⟩ spec_ignores))))
    fun _ _ near => near)

theorem TemplateResembles.blob {a b : MachineSetTemplate} (resembles : TemplateResembles free a b) :
    Enriched free .anything (blobOf a) (blobOf b) := by
  obtain ⟨type, machine⟩ := a
  obtain ⟨type', machine'⟩ := b
  cases resembles.machine with
  | none => exact .same
  | some near => exact near.blob

theorem TemplateResembles.platform {a b : MachineSetTemplate}
    (resembles : TemplateResembles free a b) : platformOf a = platformOf b := by
  obtain ⟨type, machine⟩ := a
  obtain ⟨type', machine'⟩ := b
  cases resembles.machine with
  | none => rfl
  | some near => simp [platformOf, MachineTemplate.platform, near.failureDomains]

theorem TemplateResembles.isSome {a b : MachineSetTemplate}
    (resembles : TemplateResembles free a b) : a.machine.isSome = b.machine.isSome := by
  obtain ⟨type, machine⟩ := a
  obtain ⟨type', machine'⟩ := b
  cases resembles.machine <;> rfl

end Resource

/-! ## Reports of problems -/

/-- The text up to its first line end. -/
def Text.firstLine (t : Text) : Text := t.takeWhile (· ≠ .char '\n')

theorem Text.firstLine_append (s t : Text) : firstLine (s ++ .char '\n' :: t) = firstLine s := by
  induction s with
  | nil => rfl
  | cons c s ih =>
    simp only [firstLine, List.cons_append, List.takeWhile_cons] at ih ⊢
    rw [ih]

/-- Whatever value a report is worded for, its first line is the same. -/
theorem Schema.Report.firstLine_text (report : Report) (start : Text) (v w : Value) :
    (start ++ report.text v).firstLine = (start ++ report.text w).firstLine := by
  unfold Report.text
  cases report.problems with
  | nil => rfl
  | cons problem rest =>
    simp only [List.flatMap_cons, List.cons_append, ← List.append_assoc, Text.firstLine_append]

/-- The same result or the same failure, but for the value that a report of its problems is worded
for. -/
inductive Alike : Except Failure α → Except Failure α → Prop where
  | same {outcome : Except Failure α} : Alike outcome outcome
  | blob {platform : Value} {report : Report} {members others : List (Text × Value)} :
      Alike (.error (.malformedProviderSpec platform (.notConfiguration report (.object members))))
        (.error (.malformedProviderSpec platform (.notConfiguration report (.object others))))
  | resource {report : Report} {v w : Value} :
      Alike (.error (.invalidResource report v)) (.error (.invalidResource report w))

namespace Alike

theorem trans {first second third : Except Failure α} (one : Alike first second)
    (other : Alike second third) : Alike first third := by
  cases one with
  | same => exact other
  | blob =>
    cases other with
    | same | blob => exact .blob
  | resource =>
    cases other with
    | same | resource => exact .resource

theorem bind {first second : Except Failure α} (both : Alike first second)
    (next : α → Except Failure β) : Alike (first >>= next) (second >>= next) := by
  cases both with
  | same => exact .same
  | blob => exact .blob
  | resource => exact .resource

theorem map {first second : Except Failure α} (both : Alike first second) (f : α → β) :
    Alike (first.map f) (second.map f) := by
  cases both with
  | same => exact .same
  | blob => exact .blob
  | resource => exact .resource

theorem firstLine {f g : Failure} {first second : Except Failure α} (both : Alike first second)
    (failed : first = .error f) (failed' : second = .error g) :
    f.message.firstLine = g.message.firstLine := by
  cases both with
  | same =>
    cases failed.symm.trans failed'
    rfl
  | @blob _ report =>
    cases failed
    cases failed'
    exact report.firstLine_text _ _ _
  | @resource report =>
    cases failed
    cases failed'
    exact report.firstLine_text _ _ _

end Alike

/-! ## The blob -/

namespace Provider

/-- What is asked of a configuration. -/
def Scheme.shape (scheme : Scheme) : Shape := .record scheme.record [⟨scheme.size, true, .text⟩]

/-- Members of a blob into which others are put that the scheme, if there is one, does not name. -/
def BlobEnriched (scheme? : Option Scheme) (members others : List (Text × Value)) : Prop :=
  ∃ scheme, scheme? = some scheme ∧
    Enriched (fun _ _ => False) scheme.shape (.object members) (.object others)

/-- The size that members give is found alike in others. -/
theorem find?_enriched {scheme : Scheme} {members others : List (Text × Value)}
    (enriched : Enriched (fun _ _ => False) scheme.shape (.object members) (.object others)) :
    scheme.size.find? members = scheme.size.find? others := by
  obtain ⟨name, value⟩ := enriched.agrees ⟨scheme.size, true, .text⟩ List.mem_cons_self
  rw [scheme.size.find?_eq, scheme.size.find?_eq, name]
  generalize scheme.size.of? (.object members) = v?, scheme.size.of? (.object others) = w?
    at value
  cases value with
  | none => rfl
  | some near => rw [near.eq_of_text]

theorem configuredSize_enriched {scheme : Scheme} {platform : Text} {blob other : Value}
    (enriched : Enriched (BlobEnriched (some scheme)) .anything blob other) :
    Alike (configuredSize platform scheme.model blob)
      (configuredSize platform scheme.model other) := by
  generalize whole : Shape.anything = shape at enriched
  induction enriched with
  | same => exact .same
  | trans _ _ first second => exact (first whole).trans (second whole)
  | inserted | inside | nullable => cases whole
  | @anything members others inner =>
    obtain ⟨_, ⟨⟩, enriched⟩ := inner
    have same : scheme.model.validate (.object members) = scheme.model.validate (.object others) := by
      rw [scheme.validate_eq, scheme.validate_eq, find?_enriched enriched]
    simp only [configuredSize, readBlob, same]
    cases scheme.model.validate (.object others) with
    | ok size => exact .same
    | error report => exact .blob

end Provider

/-! ## The reconciliation -/

open Resource

/-- The second value is the first with members put in at any of its levels that no field of that
level names, and the same inside a blob that is an object on a platform that is supported. -/
def MachineSet.Enriched (v w : Value) : Prop :=
  Schema.Enriched (Provider.BlobEnriched (Declared.scheme? v)) machineSetShape v w

theorem extract_enriched {scheme? : Option Provider.Scheme} {a b : MachineSetTemplate}
    (declared : (platformOf a).bind Provider.scheme? = scheme?)
    (near : TemplateResembles (Provider.BlobEnriched scheme?) a b) :
    Alike (Provider.extract Provider.builtIn a) (Provider.extract Provider.builtIn b) := by
  rw [Provider.extract_builtIn, Provider.extract_builtIn, near.machineType, near.isSome,
    ← near.platform]
  split
  · cases known : (platformOf a).bind Provider.scheme? with
    | none => exact .same
    | some scheme =>
      have blob := near.blob
      rw [← declared, known] at blob
      exact (Provider.configuredSize_enriched blob).map _
  · exact .same

theorem observe_enriched {v w : Value} (enriched : MachineSet.Enriched v w) :
    Alike (observe v) (observe w) := by
  have both := machineSet_ignores v w enriched
  have refuses (v : Value) {problems : List Problem} (read : machineSet.check v = .error problems) :
      observe v = .error (.invalidResource ⟨machineSet.name, problems⟩ v) := by
    unfold observe
    rw [parseMachineSet, Model.validate, read]
    rfl
  generalize read : machineSet.check v = first, read' : machineSet.check w = second at both
  cases both with
  | refused =>
    rw [refuses v read, refuses w read']
    exact .resource
  | @accepted m n near =>
    obtain ⟨-, -, -, spec⟩ := near
    have declares := declares_of_validate (Model.validate_eq_ok_iff.mpr read)
    have extracted := extract_enriched (by rw [declares.platform]; rfl) spec.template
    unfold observe
    rw [parseMachineSet_eq_ok_iff.mpr read, parseMachineSet_eq_ok_iff.mpr read']
    simp only [bind, Except.bind, spec.state]
    cases parseState (ofOption .text n.spec.state) with
    | error => exact .same
    | ok enabled => exact extracted.bind _

/-- For every machine set that is fetched, and all members that are put into it, at its root, in its
metadata, its specification, its template, the machine section, that section's specification, its
provider's specification and its failure domains, and into a blob that is an object on a supported
platform, none of them under a name that the level knows: the reconciliation has the same result or
the same failure with the same problems, whose message is the same up to the first line end and
differs below it at most in the value that it shows, and leaves the store and everything else the
same. -/
theorem unknown_members_are_ignored (target : Target) (ns name : Value) (e : Exporter) (api : Api)
    {v w : Value} (enriched : MachineSet.Enriched v w) (plain : e.api.get ns name = .ok v)
    (more : api.get ns name = .ok w) :
    let before := e.reconcile target ns name
    let after := { e with api := api }.reconcile target ns name
    Alike before.1 after.1 ∧
    (∀ f g, before.1 = .error f → after.1 = .error g →
      f.message.firstLine = g.message.firstLine) ∧
    after.2 = { before.2 with api := api } := by
  intro before after
  have observed := observe_enriched enriched
  have reconciled : Alike before.1 after.1 ∧ after.2 = { before.2 with api := api } := by
    unfold before after Exporter.reconcile
    simp only [Exporter.call, Exporter.say, plain, more]
    generalize observe v = first, observe w = second at observed
    cases observed with
    | blob => exact ⟨.blob, rfl⟩
    | resource => exact ⟨.resource, rfl⟩
    | same =>
      cases first with
      | error failure => exact ⟨.same, rfl⟩
      | ok o =>
        simp only [Exporter.record, Exporter.set, Exporter.say]
        cases Metrics.Store.set (.typed target.clusterId o.instanceType) (.bool o.enabled)
          e.metrics.store <;> exact ⟨.same, rfl⟩
  exact ⟨reconciled.1, fun f g failed failed' => reconciled.1.firstLine failed failed',
    reconciled.2⟩

/-- A member that no level knows. -/
def note : Text × Value := (Text.ofString "note", .text (Text.ofString "m5.large"))

/-- An object with these members and a note. -/
def noted (members : List (String × Value)) : Value :=
  .object (members.map (fun (name, v) => (Text.ofString name, v)) ++ [note])

/-- The machine set with a note at each level, and in its blob. -/
def MachineSet.annotated (name state size : Text) : Value :=
  noted [("apiVersion", .text (Text.ofString "machine.openshift.io/v1")),
    ("kind", .text (Text.ofString "ControlPlaneMachineSet")),
    ("metadata", noted [("name", .text name), ("namespace", .null), ("resourceVersion", .null)]),
    ("spec", noted [("state", .text state), ("replicas", .int 3),
      ("template", noted [("machineType", .text machineSectionName),
        ("machines_v1beta1_machine_openshift_io", noted
          [("spec", noted [("providerSpec", noted
            [("value", noted [("instanceType", .text size)])])]),
          ("failureDomains", noted [("platform", .text Provider.aws)])])])])]

theorem annotated_enriched (name state size : Text) : MachineSet.Enriched
    (MachineSet.onAws name state size) (MachineSet.annotated name state size) := by
  change Enriched (Provider.BlobEnriched (some .aws)) machineSetShape _ _
  -- each level gets its note when all that lies inside it has one
  refine .trans (.updated metadataField.wire (.tail _ (.tail _ (.head _))) (by decide) (by decide)
    rfl (.assigned note.1 (by decide) note.2)) ?_
  refine .trans (.updated specField.wire (.tail _ (.tail _ (.tail _ (.head _)))) (by decide)
    (by decide) rfl ?_) (.assigned note.1 (by decide) note.2)
  refine .trans (.updated templateField.wire (.tail _ (.tail _ (.head _))) (by decide) (by decide)
    rfl ?_) (.assigned note.1 (by decide) note.2)
  refine .trans (.updated machineField.wire (.tail _ (.head _)) (by decide) (by decide)
    rfl (.nullable ?_)) (.assigned note.1 (by decide) note.2)
  refine .trans (.updated failureDomainsField.wire (.tail _ (.head _)) (by decide) (by decide) rfl
    (.nullable (.assigned note.1 (by decide) note.2))) ?_
  refine .trans (.updated specField.wire (.head _) (by decide) (by decide) rfl ?_)
    (.assigned note.1 (by decide) note.2)
  refine .trans (.updated providerSpecField.wire (.head _) (by decide) (by decide) rfl ?_)
    (.assigned note.1 (by decide) note.2)
  refine .trans (.updated valueField.wire (.head _) (by decide) (by decide) rfl ?_)
    (.assigned note.1 (by decide) note.2)
  exact .anything ⟨.aws, rfl, .assigned note.1 (by decide) note.2⟩

/-- With a note at each level, the state is stored as it is without. -/
theorem notes_are_ignored :
    let e := Exporter.east (Text.ofString "Active")
    let cluster := Text.ofString "cluster"
    let api := Api.empty.put (Text.ofString "machines") cluster
      (.ok (MachineSet.annotated cluster (Text.ofString "Active") (Text.ofString "m5.xlarge")))
    let before := e.reconcile Target.east Target.east.ns (.text cluster)
    let after := { e with api := api }.reconcile Target.east Target.east.ns (.text cluster)
    Alike before.1 after.1 ∧ after.2 = { before.2 with api := api } ∧
    after.2.metrics.store.map (·.enabled) = [.bool true, .bool true] := by
  intro e cluster api before after
  obtain ⟨result, _, left⟩ := unknown_members_are_ignored Target.east Target.east.ns (.text cluster)
    e api (annotated_enriched cluster (Text.ofString "Active") (Text.ofString "m5.xlarge")) rfl rfl
  refine ⟨result, left, ?_⟩
  rw [show after.2 = _ from left]
  rfl

/-- A note in an object without metadata is shown by the message. -/
theorem note_is_shown_by_report :
    let plain : Value := .object []
    let annotated : Value := noted []
    let cluster : Value := .text (Text.ofString "cluster")
    let before := (Exporter.serving plain).reconcile Target.east Target.east.ns cluster
    let after := (Exporter.serving annotated).reconcile Target.east Target.east.ns cluster
    MachineSet.Enriched plain annotated ∧ ∃ f g, before.1 = .error f ∧ after.1 = .error g ∧
      f.message ≠ g.message := by
  intro plain annotated cluster before after
  refine ⟨.assigned note.1 (by decide) note.2, _, _, rfl, rfl, ?_⟩
  decide +kernel

end ControlPlaneMetrics
