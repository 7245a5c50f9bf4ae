import ControlPlaneMetrics.Proofs.SettingsFallback

/-!
What is checked of an interval between flushes. Where an exporter is made it refuses zero and less,
which nan is not; settings ask for more than zero, which nan is not either. So the interval of all
settings is greater than zero, wherever they were read from, and a number that is not greater than
zero stops them from being read.
-/
namespace ControlPlaneMetrics

open Schema (Checked Scalar)
open Schema.Coercion (number positiveNumber)

namespace Value

/-- A truth value, an integer or a float. -/
def IsNumber : Value → Prop
  | bool _ | int _ | float _ => True
  | _ => False

/-- A number greater than zero. -/
def Positive : Value → Prop
  | bool b => b = true
  | int n => 0 < n
  | float (.finite negative coefficient _ _) => negative = false ∧ coefficient ≠ 0
  | float (.infinite negative) => negative = false
  | _ => False

/-- What is taken for an interval where zero and less are refused. -/
def Admitted (v : Value) : Prop := v.Positive ∨ v = .float .nan

end Value

namespace Binary64

theorem scaleTwo_pos (coefficient : Nat) (exponent : Int) :
    0 < (scaleTwo coefficient 1 exponent).1 ↔ coefficient ≠ 0 := by
  have power (k : Nat) : 0 < Nat.pow 2 k := Nat.pow_pos (by decide)
  unfold scaleTwo
  split
  · exact (Nat.mul_pos_iff_of_pos_right (power _)).trans Nat.pos_iff_ne_zero
  · exact Nat.pos_iff_ne_zero

theorem compareInt?_zero (x : Binary64) :
    x.compareInt? 0 = some .gt ↔ (Value.float x).Positive := by
  cases x with
  | nan => exact iff_of_false nofun id
  | infinite negative => cases negative <;> simp [compareInt?, Value.Positive]
  | finite negative coefficient exponent canonical =>
    have pos := scaleTwo_pos coefficient exponent
    cases negative <;> simp [compareInt?, Value.Positive, Int.compare_eq_gt, ← pos]

theorem eq_nan_of_compareInt? {x : Binary64} {n : Int} (unordered : x.compareInt? n = none) :
    x = .nan := by
  cases x with
  | nan => rfl
  | infinite => cases unordered
  | finite => cases unordered

end Binary64

/-! ## The check of an exporter -/

theorem checkInterval_cases (v : Value) :
    (checkInterval v = .ok () ∧ v.IsNumber ∧ v.Admitted) ∨
    (checkInterval v = .error (.intervalNotPositive v) ∧ v.IsNumber ∧ ¬v.Admitted) ∨
    (checkInterval v = .error (.misuse (.notOrdered v.kindName)) ∧ ¬v.IsNumber) := by
  cases v with
  | bool b =>
    cases b with
    | true => exact .inl ⟨rfl, trivial, .inl rfl⟩
    | false => exact .inr (.inl ⟨rfl, trivial, by simp [Value.Admitted, Value.Positive]⟩)
  | int n =>
    by_cases positive : 0 < n
    · have sign : compare n 0 = .gt := Int.compare_eq_gt.mpr positive
      exact .inl ⟨by simp [checkInterval, Value.integer?, sign], trivial, .inl positive⟩
    · have refused : ¬(Value.int n).Admitted := by
        simpa [Value.Admitted, Value.Positive] using positive
      refine .inr (.inl ⟨?_, trivial, refused⟩)
      cases sign : compare n 0 with
      | gt => exact absurd (Int.compare_eq_gt.mp sign) positive
      | lt => simp [checkInterval, Value.integer?, sign]
      | eq => simp [checkInterval, Value.integer?, sign]
  | float x =>
    have sign := x.compareInt?_zero
    cases compared : x.compareInt? 0 with
    | none =>
      obtain rfl := Binary64.eq_nan_of_compareInt? compared
      exact .inl ⟨rfl, trivial, .inr rfl⟩
    | some order =>
      have ordered : Value.float x ≠ .float .nan := by
        rintro ⟨⟩
        cases compared
      rw [compared] at sign
      cases order with
      | gt => exact .inl ⟨by simp [checkInterval, compared], trivial, .inl (sign.mp rfl)⟩
      | _ =>
        refine .inr (.inl ⟨by simp [checkInterval, compared], trivial, ?_⟩)
        rintro (positive | nan)
        · cases sign.mpr positive
        · exact ordered nan
  | _ => exact .inr (.inr ⟨rfl, id⟩)

theorem admitted_of_checkInterval {v : Value} (passed : checkInterval v = .ok ()) : v.Admitted := by
  rcases checkInterval_cases v with ⟨-, -, admitted⟩ | ⟨refused, -⟩ | ⟨refused, -⟩
  · exact admitted
  · cases passed.symm.trans refused
  · cases passed.symm.trans refused

/-! ## Settings -/

theorem positiveNumber_eq_ok_iff {v : Scalar} {x : Binary64} :
    positiveNumber v = .ok x ↔ number v = .ok x ∧ (Value.float x).Positive := by
  rw [← Binary64.compareInt?_zero]
  unfold positiveNumber
  cases read : number v with
  | error flaw => exact iff_of_false nofun (fun both => nomatch both.1)
  | ok y =>
    simp only [Except.bind, Except.ok.injEq]
    split
    · next above =>
      constructor
      · rintro ⟨⟩
        exact ⟨rfl, above⟩
      · intro both
        rw [both.1]
    · next other =>
      refine iff_of_false nofun ?_
      rintro ⟨rfl, above⟩
      exact other above

/-- A number is given as such, or by a text or octets that spell it. -/
inductive Stands : Scalar → Value → Prop where
  | itself {v : Value} : v.IsNumber → Stands v.scalar v
  | spelt {source : Scalar} {x : Binary64} : number source = .ok x → Stands source (.float x)

theorem Binary64.ofRatio_not_positive (num den : Nat) :
    ¬(Value.float (ofRatio true num den)).Positive := by
  have parts (coefficient : Nat) (exponent : Int) :
      ¬(Value.float (ofParts true coefficient exponent)).Positive := by
    unfold ofParts
    split <;> simp [Value.Positive]
  unfold ofRatio
  split
  · simp [zero, Value.Positive]
  · dsimp only
    split
    · exact parts _ _
    · exact parts _ _

/-- A number does not become greater than zero when it is rounded to a float. -/
theorem Stands.not_positive {source : Scalar} {v : Value} {x : Binary64} (stands : Stands source v)
    (refused : ¬v.Positive) (read : number source = .ok x) : ¬(Value.float x).Positive := by
  cases stands with
  | spelt read' =>
    cases read'.symm.trans read
    exact refused
  | itself numbered =>
    cases v with
    | bool b =>
      cases b with
      | true => exact absurd rfl refused
      | false =>
        cases read
        simp [Binary64.ofInt, Binary64.ofRatio, Binary64.zero, Value.Positive]
    | int n =>
      have rounded : x = Binary64.ofInt n := by
        simp only [Value.scalar, number, Schema.Coercion.spelling] at read
        split at read
        · cases read
        · exact (Except.ok.inj read).symm
      rw [rounded, Binary64.ofInt]
      by_cases zero : n = 0
      · subst zero
        simp [Binary64.ofRatio, Binary64.zero, Value.Positive]
      · have negative : n < 0 := by
          simp only [Value.Positive] at refused
          omega
        rw [decide_eq_true negative]
        exact Binary64.ofRatio_not_positive n.natAbs 1
    | float y =>
      cases read
      exact refused
    | _ => exact numbered.elim

theorem Schema.Checked.under_eq_ok {name : Text} {x : Checked α} {a : α}
    (passed : x.under name = .ok a) : x = .ok a := by
  cases x with
  | error problems => cases passed
  | ok b => exact passed

namespace Settings

/-- What a field is read from unless it has its default: what was given for it, or else a
variable. -/
def source? (given : Given) (env : Environment) (start name : String) : Option Scalar :=
  (given.find? (Text.ofString name)).or
    ((lookup? (Text.ofString start ++ Text.ofString name) env).map .text)

theorem field_eq_ok {given : Given} {env : Environment} {start name : String}
    {coerce : Scalar → Except Schema.Flaw α} {default : Checked α} {a : α}
    (passed : field given env start name coerce default = .ok a) :
    (∃ v, source? given env start name = some v ∧ coerce v = .ok a) ∨
    (source? given env start name = none ∧ default = .ok a) := by
  unfold field at passed
  unfold source?
  dsimp only at passed
  cases found : given.find? (Text.ofString name) with
  | some v =>
    rw [found] at passed
    dsimp only at passed
    split at passed
    · next coerced => exact .inl ⟨v, rfl, Except.ok.inj passed ▸ coerced⟩
    · cases passed
  | none =>
    cases set : lookup? (Text.ofString start ++ Text.ofString name) env with
    | some t =>
      rw [found, set] at passed
      dsimp only [Option.map_some] at passed
      split at passed
      · next coerced => exact .inl ⟨.text t, rfl, Except.ok.inj passed ▸ coerced⟩
      · cases passed
    | none =>
      rw [found, set] at passed
      exact .inr ⟨rfl, Schema.Checked.under_eq_ok passed⟩

/-- What the interval is read from unless it has its default; `env` has names in lower case. -/
def intervalSource? (given : Given) (env : Environment) : Option Scalar :=
  source? given env "exporter_" "aggregation_interval"

theorem Export.read_interval {default e : Export} {env : Environment} {given : Given}
    (read : default.read env given = .ok e) : (Value.float e.interval).Positive ∧
      ∀ v, intervalSource? given env = some v → number v = .ok e.interval := by
  obtain ⟨fields, checked, rfl⟩ := map_eq_ok read
  obtain ⟨-, checked⟩ := Schema.ReadsMembers.both_eq_ok checked
  obtain ⟨passed, -⟩ := Schema.ReadsMembers.both_eq_ok checked
  rcases field_eq_ok passed with ⟨v, found, coerced⟩ | ⟨none, checked⟩
  · obtain ⟨numbered, positive⟩ := positiveNumber_eq_ok_iff.mp coerced
    refine ⟨positive, fun w found' => ?_⟩
    obtain rfl : v = w := Option.some.inj (found.symm.trans found')
    exact numbered
  · obtain ⟨-, positive⟩ := positiveNumber_eq_ok_iff.mp (mapError_eq_ok checked)
    refine ⟨positive, fun w found' => ?_⟩
    rw [intervalSource?, none] at found'
    cases found'

/-- What is given for the fields of a section by a variable that gives it as a whole. -/
def givenBy : Option Value → Given
  | some (.object members) => members.map fun (name, v) => (name, v.scalar)
  | _ => []

/-- A section is one that was made before, or is read. -/
theorem Section.settle_eq_ok {s : Section α} {made : Option α} {whole : Option Value} {a : α}
    (settled : s.settle made whole = .ok (.ok a)) :
    made = some a ∨ (made = none ∧ s.read (givenBy whole) = .ok a) := by
  cases made with
  | some b =>
    cases settled
    exact .inl rfl
  | none =>
    refine .inr ⟨rfl, ?_⟩
    cases whole with
    | none => exact mapError_eq_ok (Section.settle_nothing settled rfl rfl)
    | some v =>
      cases v with
      | object members =>
        simp only [settle, Except.ok.injEq] at settled
        exact Schema.Checked.under_eq_ok settled
      | _ => cases settled

/-- The exporter's section of settings that have been put together. -/
theorem assemble_exporter {default settings : Settings} {env : Environment}
    {variableFile : Option Text} {made : Made}
    (assembled : assemble default env variableFile made = .ok settings) :
    made.exporter = some settings.exporter ∨
    (made.exporter = none ∧ ∃ whole, Layer.ofVariables default env variableFile = .ok whole ∧
      default.exporter.read env.lowered (givenBy whole.exporter) = .ok settings.exporter) := by
  rw [assemble_eq] at assembled
  obtain ⟨whole, layered, settled⟩ := bind_eq_ok assembled
  obtain ⟨kubernetes, -, settled⟩ := bind_eq_ok settled
  obtain ⟨exporter, made', settled⟩ := bind_eq_ok settled
  obtain ⟨api, -, settled⟩ := bind_eq_ok settled
  obtain ⟨logging, -, settled⟩ := bind_eq_ok settled
  split at settled
  · cases settled
  · next checked =>
    cases settled
    obtain ⟨-, checked⟩ := Schema.ReadsMembers.both_eq_ok checked
    obtain ⟨-, checked⟩ := Schema.ReadsMembers.both_eq_ok checked
    obtain ⟨-, checked⟩ := Schema.ReadsMembers.both_eq_ok checked
    obtain ⟨rfl, -⟩ := Schema.ReadsMembers.both_eq_ok checked
    rcases Section.settle_eq_ok made' with before | ⟨unmade, read⟩
    · exact .inl before
    · exact .inr ⟨unmade, whole, layered, read⟩

theorem madeSection_eq_ok {file : Yaml.Value} {s : Section α} {a : α}
    (made : madeSection file s = .ok a) :
    ∃ given, fileSection file s = .ok given ∧ s.read given = .ok a := by
  unfold madeSection at made
  cases found : fileSection file s with
  | error m =>
    rw [found] at made
    cases made
  | ok given =>
    rw [found] at made
    exact ⟨given, rfl, mapError_eq_ok made⟩

/-- What a file has at its top, which counts as an empty mapping if it is false. -/
def topOf (v : Yaml.Value) : Yaml.Value := if v.isTruthy then v else .mapping []

theorem ofFile_exporter {default settings : Settings} {env : Environment}
    {variableFile : Option Text} {file : Text}
    (read : ofFile default env variableFile (some file) = .ok settings) :
    ∃ v given, spelled env file = .ok v ∧
      fileSection (topOf v) (sections default env).exporter = .ok given ∧
      default.exporter.read env.lowered given = .ok settings.exporter := by
  obtain ⟨v, loaded, read⟩ := bind_eq_ok read
  obtain ⟨environment, -, read⟩ := bind_eq_ok read
  obtain ⟨debug, -, read⟩ := bind_eq_ok read
  obtain ⟨kubernetes, -, read⟩ := bind_eq_ok read
  obtain ⟨exporter, made, read⟩ := bind_eq_ok read
  obtain ⟨api, -, read⟩ := bind_eq_ok read
  obtain ⟨logging, -, read⟩ := bind_eq_ok read
  obtain ⟨given, found, read'⟩ := madeSection_eq_ok made
  rcases assemble_exporter read with same | ⟨unmade, -⟩
  · obtain rfl : exporter = settings.exporter := Option.some.inj same
    exact ⟨v, given, mapError_eq_ok loaded, found, read'⟩
  · cases unmade

theorem ofEnvironment_interval {default started : Settings} {env : Environment}
    {variableFile : Option Text} (made : ofEnvironment default env variableFile = .ok started) :
    (Value.float started.exporter.interval).Positive := by
  rcases assemble_exporter made with made | ⟨-, whole, -, read⟩
  · cases made
  · exact (Export.read_interval read).1

theorem load_interval {default settings : Settings} {w : Surroundings} {path : Text}
    (loaded : load default w path = .ok settings) :
    (Value.float settings.exporter.interval).Positive := by
  unfold load at loaded
  rcases found : w.file path with _ | cause | file <;> rw [found] at loaded
  · exact ofEnvironment_interval loaded
  · cases loaded
  · obtain ⟨v, given, -, -, read⟩ := ofFile_exporter loaded
    exact (Export.read_interval read).1

/-- The interval is read from a number, if it can be told what the variables give. -/
def VariablesGive (env : Environment) (variableFile : Option Text) (v : Value) : Prop :=
  ∀ default, defaults env = .ok default →
    ∀ whole, Layer.ofVariables default env variableFile = .ok whole →
      ∃ source, intervalSource? (givenBy whole.exporter) env.lowered = some source ∧
        Stands source v

theorem atStart_refuses {env : Environment} {variableFile : Option Text} {v : Value}
    (gives : VariablesGive env variableFile v) (refused : ¬v.Positive) :
    ∃ fault, atStart env variableFile = .error fault := by
  cases imported : atStart env variableFile with
  | error fault => exact ⟨fault, rfl⟩
  | ok both =>
    obtain ⟨defaulted, alone⟩ := atStart_eq_ok imported
    rcases assemble_exporter alone with made | ⟨-, whole, layered, read⟩
    · cases made
    · obtain ⟨source, found, stands⟩ := gives both.1 defaulted whole layered
      obtain ⟨positive, numbered⟩ := Export.read_interval read
      exact absurd positive (stands.not_positive refused (numbered source found))

/-- The interval is read from a number in the file, or in a variable if the file gives none. -/
def GivesInterval (default : Settings) (env : Environment) (file : Text) (v : Value) : Prop :=
  ∃ top given source, spelled env file = .ok top ∧
    fileSection (topOf top) (sections default env).exporter = .ok given ∧
    intervalSource? given env.lowered = some source ∧ Stands source v

theorem ofFile_refuses {default : Settings} {env : Environment} (variableFile : Option Text)
    {file : Text} {v : Value} (gives : GivesInterval default env file v) (refused : ¬v.Positive) :
    ∃ fault, ofFile default env variableFile (some file) = .error fault := by
  cases read : ofFile default env variableFile (some file) with
  | error fault => exact ⟨fault, rfl⟩
  | ok settings =>
    obtain ⟨top, given, source, value, found, source', stands⟩ := gives
    obtain ⟨top', given', value', found', made⟩ := ofFile_exporter read
    obtain rfl : top = top' := Except.ok.inj (value.symm.trans value')
    obtain rfl : given = given' := Except.ok.inj (found.symm.trans found')
    obtain ⟨positive, numbered⟩ := Export.read_interval made
    exact absurd positive (stands.not_positive refused (numbered source source'))

end Settings

end ControlPlaneMetrics
