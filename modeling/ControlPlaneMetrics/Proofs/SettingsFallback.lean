import ControlPlaneMetrics.Proofs.Declared
import ControlPlaneMetrics.Proofs.Startup

/-!
Settings from a file that gives none, against settings without a file. The sections of a file are made
before the settings as a whole, also where the file lacks them, and a section that is made is not
looked for among the variables. A variable that gives a section as a whole is lost that way.
-/
namespace ControlPlaneMetrics.Settings

open Schema (Checked)

/-! ## What variables give -/

/-- What the variables give, those of the environment over those of the file of variables. -/
def Layer.ofVariables (default : Settings) (env : Environment) (variableFile : Option Text) :
    Except Fault Layer := do
  let sections := sections default env
  let upper ← Layer.read sections .environment
    (env.lowered.map fun (name, value) => (name, some value))
  let set := VariableFile.load env (Text.unifyLineEnds (variableFile.getD []))
  let lower ← Layer.read sections .variableFile
    (set.foldl (fun low (name, value) => write name.lower value low) [])
  .ok (upper.onto lower)

/-- No section is given as a whole. -/
def Layer.Sectionless (given : Layer) : Prop :=
  given.kubernetes = none ∧ given.exporter = none ∧ given.api = none ∧ given.logging = none

/-- The settings as a whole, once it is known what the variables give. -/
def Layer.settle (given : Layer) (default : Settings) (sections : Sections) (made : Made) :
    Except Fault Settings := do
  let environment := topField "environment" made.environment given.environment
    Schema.Coercion.text default.environment
  let debug := topField "debug" made.debug given.debug Schema.Coercion.truth default.debug
  let kubernetes ← sections.kubernetes.settle made.kubernetes given.kubernetes
  let exporter ← sections.exporter.settle made.exporter given.exporter
  let api ← sections.api.settle made.api given.api
  let logging ← sections.logging.settle made.logging given.logging
  match Checked.both environment <| Checked.both debug <| Checked.both kubernetes <|
      Checked.both exporter <| Checked.both api logging with
  | .error problems => .error (.invalid ⟨Text.ofString "Settings", problems⟩)
  | .ok (environment, debug, kubernetes, exporter, api, logging) =>
    .ok ⟨environment, debug, kubernetes, exporter, api, logging⟩

theorem assemble_eq (default : Settings) (env : Environment) (variableFile : Option Text)
    (made : Made) : assemble default env variableFile made =
      (Layer.ofVariables default env variableFile).bind fun given =>
        given.settle default (sections default env) made := by
  unfold assemble Layer.ofVariables
  cases upper : Layer.read (sections default env) .environment
      (env.lowered.map fun (name, value) => (name, some value)) with
  | error fault => simp only [bind, Except.bind, upper]
  | ok above =>
    cases lower : Layer.read (sections default env) .variableFile
        ((VariableFile.load env (Text.unifyLineEnds (variableFile.getD []))).foldl
          (fun low (name, value) => write name.lower value low) []) with
    | error fault => simp only [bind, Except.bind, upper, lower]
    | ok below =>
      simp only [bind, Except.bind, upper, lower]
      rfl

/-- A section that neither a file nor a variable gives is read from nothing. -/
theorem Section.settle_nothing {s : Section α} {given : Option Value} {checked : Checked α} {a : α}
    (settled : s.settle none given = .ok checked) (passed : checked = .ok a)
    (absent : given = none) : s.build [] = .ok a := by
  subst passed absent
  cases built : s.build [] with
  | error fault => simp [settle, built, Except.map] at settled
  | ok other => simpa [settle, built, Except.map] using settled

/-- What settings without a file are made of. -/
structure Layer.Settled (given : Layer) (default : Settings) (sections : Sections)
    (started : Settings) : Prop where
  environment : topField "environment" none given.environment Schema.Coercion.text
    default.environment = .ok started.environment
  debug : topField "debug" none given.debug Schema.Coercion.truth default.debug = .ok started.debug
  kubernetes : given.kubernetes = none → sections.kubernetes.build [] = .ok started.kubernetes
  exporter : given.exporter = none → sections.exporter.build [] = .ok started.exporter
  api : given.api = none → sections.api.build [] = .ok started.api
  logging : given.logging = none → sections.logging.build [] = .ok started.logging

theorem Layer.settled_of_settle {given : Layer} {default started : Settings} {sections : Sections}
    (settled : given.settle default sections Made.nothing = .ok started) :
    given.Settled default sections started := by
  obtain ⟨kubernetes, first, settled⟩ := bind_eq_ok settled
  obtain ⟨exporter, second, settled⟩ := bind_eq_ok settled
  obtain ⟨api, third, settled⟩ := bind_eq_ok settled
  obtain ⟨logging, fourth, settled⟩ := bind_eq_ok settled
  split at settled
  · cases settled
  · next checked =>
    cases settled
    obtain ⟨environment, checked⟩ := Schema.ReadsMembers.both_eq_ok checked
    obtain ⟨debug, checked⟩ := Schema.ReadsMembers.both_eq_ok checked
    obtain ⟨madeKubernetes, checked⟩ := Schema.ReadsMembers.both_eq_ok checked
    obtain ⟨madeExporter, checked⟩ := Schema.ReadsMembers.both_eq_ok checked
    obtain ⟨madeApi, madeLogging⟩ := Schema.ReadsMembers.both_eq_ok checked
    exact {
      environment := environment
      debug := debug
      kubernetes := Section.settle_nothing first madeKubernetes
      exporter := Section.settle_nothing second madeExporter
      api := Section.settle_nothing third madeApi
      logging := Section.settle_nothing fourth madeLogging }

/-- Where every section is made before, the variables give the settings that are in no section. -/
theorem Layer.settle_made {given : Layer} {default started : Settings} {sections : Sections}
    (settled : given.Settled default sections started) (kubernetes : Kubernetes)
    (exporter : Export) (api : Endpoint) (logging : Logging) :
    given.settle default sections
        ⟨none, none, some kubernetes, some exporter, some api, some logging⟩ =
      .ok ⟨started.environment, started.debug, kubernetes, exporter, api, logging⟩ := by
  simp only [Layer.settle, Section.settle, settled.environment, settled.debug, Checked.both, bind,
    Except.bind]

/-! ## A file that gives nothing -/

/-- A file that gives no settings: a missing one, and one whose value is false or an empty mapping. -/
inductive Bare (env : Environment) : Option Text → Prop where
  | missing : Bare env none
  | falsy {file : Text} {v : Yaml.Value} : spelled env file = .ok v → v.isTruthy = false →
      Bare env (some file)

theorem expand_nil (env : Environment) : expand env [] = [] := by
  unfold expand
  induction env with
  | nil => rfl
  | cons entry env ih => exact ih

theorem Bare.empty (env : Environment) : Bare env (some []) := by
  have blank : spelled env [] = .ok .null := by
    rw [spelled, show Text.unifyLineEnds [] = [] from rfl, expand_nil]
    rfl
  exact .falsy blank rfl

/-- Each section is read from nothing. -/
theorem ofFile_of_bare (default : Settings) {env : Environment} (variableFile : Option Text)
    {file : Option Text} (bare : Bare env file) : ofFile default env variableFile file = (do
      let kubernetes ← (sections default env).kubernetes.build []
      let exporter ← (sections default env).exporter.build []
      let api ← (sections default env).api.build []
      let logging ← (sections default env).logging.build []
      assemble default env variableFile
        ⟨none, none, some kubernetes, some exporter, some api, some logging⟩) := by
  cases bare with
  | missing => rfl
  | @falsy file v read falsy =>
    have value : (Yaml.load (expand env (Text.unifyLineEnds file))).mapError Fault.yaml = .ok v := by
      rw [show Yaml.load (expand env (Text.unifyLineEnds file)) = .ok v from read]
      rfl
    unfold ofFile
    simp only [value, falsy, bind, Except.bind, Bool.false_eq_true, if_false]
    rfl

theorem Section.build_error {s : Section α} {given : Given} {fault : Fault}
    (refused : s.build given = .error fault) : ∃ report, fault = .invalid report := by
  obtain ⟨problems, _, reported⟩ := mapError_eq_error refused
  exact ⟨_, reported⟩

/-- How settings from a file that gives none stand to those without a file: they are the same but for
sections that are given as a whole, which are read from nothing. -/
structure FallsBack (given : Layer) (sections : Sections) (started loaded : Settings) : Prop where
  environment : loaded.environment = started.environment
  debug : loaded.debug = started.debug
  kubernetes : sections.kubernetes.build [] = .ok loaded.kubernetes ∧
    (given.kubernetes = none → loaded.kubernetes = started.kubernetes)
  exporter : sections.exporter.build [] = .ok loaded.exporter ∧
    (given.exporter = none → loaded.exporter = started.exporter)
  api : sections.api.build [] = .ok loaded.api ∧
    (given.api = none → loaded.api = started.api)
  logging : sections.logging.build [] = .ok loaded.logging ∧
    (given.logging = none → loaded.logging = started.logging)

theorem FallsBack.eq {given : Layer} {sections : Sections} {started loaded : Settings}
    (back : FallsBack given sections started loaded) (sectionless : given.Sectionless) :
    loaded = started := by
  obtain ⟨noKubernetes, noExporter, noApi, noLogging⟩ := sectionless
  cases loaded
  cases started
  simp only [mk.injEq]
  exact ⟨back.environment, back.debug, back.kubernetes.2 noKubernetes, back.exporter.2 noExporter,
    back.api.2 noApi, back.logging.2 noLogging⟩

theorem built_same {s : Section α} {given : Option Value} {loaded started : α}
    (built : s.build [] = .ok loaded) (settled : given = none → s.build [] = .ok started) :
    s.build [] = .ok loaded ∧ (given = none → loaded = started) :=
  ⟨built, fun absent => Except.ok.inj (built.symm.trans (settled absent))⟩

/-- A file that gives nothing is refused only where a section is given as a whole. -/
theorem bare_cases {default started : Settings} {env : Environment} {variableFile file : Option Text}
    {given : Layer} (layered : Layer.ofVariables default env variableFile = .ok given)
    (settled : given.Settled default (sections default env) started) (bare : Bare env file) :
    (∃ loaded, ofFile default env variableFile file = .ok loaded ∧
      FallsBack given (sections default env) started loaded) ∨
    ∃ report, ofFile default env variableFile file = .error (.invalid report) ∧
      ¬given.Sectionless := by
  have unbuilt {α : Type} {s : Section α} {whole : Option Value} {fault : Fault} {a : α}
      (refused : s.build [] = .error fault) (built : whole = none → s.build [] = .ok a) :
      whole ≠ none := by
    intro absent
    rw [built absent] at refused
    cases refused
  rw [ofFile_of_bare default variableFile bare]
  cases kubernetes : (sections default env).kubernetes.build [] with
  | error fault =>
    obtain ⟨report, rfl⟩ := Section.build_error kubernetes
    exact .inr ⟨report, rfl, fun none => unbuilt kubernetes settled.kubernetes none.1⟩
  | ok k =>
  cases exporter : (sections default env).exporter.build [] with
  | error fault =>
    obtain ⟨report, rfl⟩ := Section.build_error exporter
    exact .inr ⟨report, rfl, fun none => unbuilt exporter settled.exporter none.2.1⟩
  | ok e =>
  cases api : (sections default env).api.build [] with
  | error fault =>
    obtain ⟨report, rfl⟩ := Section.build_error api
    exact .inr ⟨report, rfl, fun none => unbuilt api settled.api none.2.2.1⟩
  | ok a =>
  cases logging : (sections default env).logging.build [] with
  | error fault =>
    obtain ⟨report, rfl⟩ := Section.build_error logging
    exact .inr ⟨report, rfl, fun none => unbuilt logging settled.logging none.2.2.2⟩
  | ok l =>
    refine .inl ⟨⟨started.environment, started.debug, k, e, a, l⟩, ?_, ?_⟩
    · simp only [bind, Except.bind, assemble_eq, layered]
      exact Layer.settle_made settled k e a l
    · exact ⟨rfl, rfl, built_same kubernetes settled.kubernetes,
        built_same exporter settled.exporter, built_same api settled.api,
        built_same logging settled.logging⟩

/-- For every environment and file of variables from which settings could be imported, and for every
file that is missing or gives nothing. Unless variables give a section as a whole, the settings are
those without a file; a section that they give is read from nothing, as the others are. -/
theorem bare_file_falls_back {default started : Settings} {env : Environment}
    {variableFile file : Option Text}
    (imported : atStart env variableFile = .ok (default, started)) (bare : Bare env file) :
    ∃ given, Layer.ofVariables default env variableFile = .ok given ∧
      (given.Sectionless → ofFile default env variableFile file = .ok started) ∧
      ((∃ loaded, ofFile default env variableFile file = .ok loaded ∧
        FallsBack given (sections default env) started loaded) ∨
      ∃ report, ofFile default env variableFile file = .error (.invalid report) ∧
        ¬given.Sectionless) := by
  have alone := ofEnvironment_of_atStart imported
  rw [ofEnvironment, assemble_eq] at alone
  obtain ⟨given, layered, settled⟩ := bind_eq_ok alone
  have cases := bare_cases layered (Layer.settled_of_settle settled) bare
  refine ⟨given, layered, fun sectionless => ?_, cases⟩
  rcases cases with ⟨loaded, read, back⟩ | ⟨_, _, whole⟩
  · rw [read, back.eq sectionless]
  · exact absurd sectionless whole

/-- A cluster identifier from the environment, debugging from the file of variables, and an empty
mapping. -/
theorem empty_mapping_falls_back :
    let env := [(Text.ofString "EXPORTER_CLUSTER_ID", Text.ofString "c1")]
    let variableFile := some (Text.ofString "DEBUG=true\n")
    ∃ default started, atStart env variableFile = .ok (default, started) ∧
      started.exporter.clusterId = some (Text.ofString "c1") ∧ started.debug = true ∧
      ofFile default env variableFile (some (Text.ofString "\x7b\x7d")) = .ok started := by
  intro env variableFile
  have evaluated : ((atStart env variableFile).toOption.bind fun (default, started) =>
      (Layer.ofVariables default env variableFile).toOption.map fun given =>
        (started.exporter.clusterId, started.debug, given.kubernetes.isNone && given.exporter.isNone &&
          given.api.isNone && given.logging.isNone)) =
      some (some (Text.ofString "c1"), true, true) := by decide +kernel
  have value : (spelled env (Text.ofString "\x7b\x7d")).toOption.map Yaml.Value.isTruthy =
      some false := by decide +kernel
  obtain ⟨⟨default, started⟩, made, evaluated⟩ := Option.bind_eq_some_iff.mp evaluated
  obtain ⟨given, layered, shown⟩ := Option.map_eq_some_iff.mp evaluated
  obtain ⟨v, read, falsy⟩ := Option.map_eq_some_iff.mp value
  simp only [Prod.mk.injEq, Bool.and_eq_true, Option.isNone_iff_eq_none] at shown
  obtain ⟨named, debug, ⟨⟨noKubernetes, noExporter⟩, noApi⟩, noLogging⟩ := shown
  have imported := eq_ok_of_toOption made
  obtain ⟨given', layered', same, _⟩ :=
    bare_file_falls_back imported (.falsy (eq_ok_of_toOption read) falsy)
  obtain rfl : given = given' := Except.ok.inj ((eq_ok_of_toOption layered).symm.trans layered')
  have sectionless : given.Sectionless := ⟨noKubernetes, noExporter, noApi, noLogging⟩
  exact ⟨default, started, imported, named, debug, same sectionless⟩

/-- A section in a variable is there without a file, and lost with a missing one. -/
theorem missing_file_loses_section :
    let env := [(Text.ofString "EXPORTER", Text.ofString "\x7b\"cluster_id\": \"x\"\x7d")]
    ∃ default started loaded, atStart env none = .ok (default, started) ∧
      ofFile default env none none = .ok loaded ∧
      started.exporter.clusterId = some (Text.ofString "x") ∧ loaded.exporter.clusterId = none := by
  intro env
  have evaluated : ((atStart env none).toOption.bind fun (default, started) =>
      (ofFile default env none none).toOption.map fun loaded =>
        (started.exporter.clusterId, loaded.exporter.clusterId)) =
      some (some (Text.ofString "x"), none) := by decide +kernel
  obtain ⟨⟨default, started⟩, made, evaluated⟩ := Option.bind_eq_some_iff.mp evaluated
  obtain ⟨loaded, read, shown⟩ := Option.map_eq_some_iff.mp evaluated
  obtain ⟨before, after⟩ := Prod.mk.inj shown
  exact ⟨default, started, loaded, eq_ok_of_toOption made, eq_ok_of_toOption read, before, after⟩

end ControlPlaneMetrics.Settings
