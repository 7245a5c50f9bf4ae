import ControlPlaneMetrics.Service

/-!
How a run of the program ends. A start that fails is reported with the exit status one if its cause
is a value that cannot be accepted, or a failure of the cluster that was to be expected. A file that
the system refuses, that is no YAML, or that is of another shape than settings have, is neither: its
failure leaves the program as it is, and so do a few others.
-/
namespace ControlPlaneMetrics

section Except

variable {α β ε δ : Type _}

theorem bind_eq_error {first : Except ε α} {next : α → Except ε β} {e : ε}
    (refused : first >>= next = .error e) :
    first = .error e ∨ ∃ a, first = .ok a ∧ next a = .error e := by
  cases first with
  | error other => cases refused; exact .inl rfl
  | ok a => exact .inr ⟨a, rfl, refused⟩

theorem bind_eq_ok {first : Except ε α} {next : α → Except ε β} {b : β}
    (passed : first >>= next = .ok b) : ∃ a, first = .ok a ∧ next a = .ok b := by
  cases first with
  | error e => cases passed
  | ok a => exact ⟨a, rfl, passed⟩

theorem mapError_eq_error {outcome : Except ε α} {wrap : ε → δ} {d : δ}
    (refused : outcome.mapError wrap = .error d) : ∃ e, outcome = .error e ∧ d = wrap e := by
  cases outcome with
  | error e => cases refused; exact ⟨e, rfl, rfl⟩
  | ok a => cases refused

theorem mapError_eq_ok {outcome : Except ε α} {wrap : ε → δ} {a : α}
    (passed : outcome.mapError wrap = .ok a) : outcome = .ok a := by
  cases outcome with
  | error e => cases passed
  | ok b => cases passed; rfl

theorem map_eq_ok {outcome : Except ε α} {f : α → β} {b : β} (passed : outcome.map f = .ok b) :
    ∃ a, outcome = .ok a ∧ f a = b := by
  cases outcome with
  | error e => cases passed
  | ok a => exact ⟨a, rfl, Except.ok.inj passed⟩

theorem eq_ok_of_toOption {outcome : Except ε α} {a : α} (some : outcome.toOption = some a) :
    outcome = .ok a := by
  cases outcome with
  | error e => cases some
  | ok b => exact congrArg Except.ok (Option.some.inj some)

end Except

namespace Settings

def sectionNames : List Text := texts ["kubernetes", "exporter", "api", "logging"]

/-- The entries of a mapping can be given by name. -/
def HasNames (v : Yaml.Value) : Prop :=
  ∃ entries, v = .mapping entries ∧ ∀ entry ∈ entries, ∃ name, entry.1 = .text name

/-- The shape of a file of settings: a mapping, in which each section can be given by names. -/
def Shaped (v : Yaml.Value) : Prop :=
  ∃ entries, v = .mapping entries ∧
    ∀ name ∈ sectionNames, ∀ given, Yaml.Value.entry? name entries = some given → HasNames given

theorem names_error {entries : List (Yaml.Value × Yaml.Value)} {given : Given} {m : Misuse}
    (refused : entries.foldlM (fun given (key, v) => match key with
      | .text name => (.ok (write name v.scalar given) : Except Misuse Given)
      | _ => .error .namesNotText) given = .error m) :
    ¬∀ entry ∈ entries, ∃ name, entry.1 = .text name := by
  induction entries generalizing given with
  | nil => cases refused
  | cons entry rest ih =>
    obtain ⟨key, v⟩ := entry
    intro named
    obtain ⟨⟨name, rfl⟩, others⟩ := List.forall_mem_cons.mp named
    exact ih refused others

theorem fileSection_error {file : Yaml.Value} {s : Section α} {m : Misuse}
    (known : s.name ∈ sectionNames) (refused : fileSection file s = .error m) : ¬Shaped file := by
  rintro ⟨entries, rfl, named⟩
  unfold fileSection at refused
  cases found : Yaml.Value.entry? s.name entries with
  | none => simp [found] at refused
  | some given =>
    obtain ⟨inner, rfl, names⟩ := named s.name known given found
    simp only [found] at refused
    exact names_error refused names

theorem madeSection_error {file : Yaml.Value} {s : Section α} {fault : Fault}
    (known : s.name ∈ sectionNames) (refused : madeSection file s = .error fault) :
    (∃ report, fault = .invalid report) ∨ ∃ m, fault = .misuse m ∧ ¬Shaped file := by
  unfold madeSection at refused
  cases found : fileSection file s with
  | error m =>
    simp only [found] at refused
    cases refused
    exact .inr ⟨m, rfl, fileSection_error known found⟩
  | ok given =>
    simp only [found, Section.build] at refused
    cases read : s.read given with
    | ok a =>
      rw [read] at refused
      cases refused
    | error problems =>
      rw [read] at refused
      cases refused
      exact .inl ⟨_, rfl⟩

theorem topEntry_error {file : Yaml.Value} {name : Text} {m : Misuse}
    (refused : topEntry file name = .error m) : ¬Shaped file := by
  rintro ⟨entries, rfl, _⟩
  cases refused

/-- Once the variables could be read for the settings without a file, settings from a file can only
be invalid when the sections are made. -/
theorem assemble_error {default started : Settings} {env : Environment} {variableFile : Option Text}
    {fault : Fault} (imported : ofEnvironment default env variableFile = .ok started)
    (environment debug : Option Schema.Scalar) (kubernetes : Kubernetes) (exporter : Export)
    (api : Endpoint) (logging : Logging)
    (refused : assemble default env variableFile ⟨environment, debug, some kubernetes,
      some exporter, some api, some logging⟩ = .error fault) : ∃ report, fault = .invalid report := by
  rcases bind_eq_error refused with unread | ⟨above, upper, refused⟩
  · unfold ofEnvironment assemble at imported
    simp only [unread, bind, Except.bind] at imported
    cases imported
  rcases bind_eq_error refused with unread | ⟨below, lower, refused⟩
  · unfold ofEnvironment assemble at imported
    simp only [upper, unread, bind, Except.bind] at imported
    cases imported
  -- every section is there, so that nothing is read from the variables for it
  simp only [Section.settle, bind, Except.bind] at refused
  split at refused
  · cases refused
    exact ⟨_, rfl⟩
  · cases refused

theorem atStart_eq_ok {default started : Settings} {env : Environment}
    {variableFile : Option Text} (imported : atStart env variableFile = .ok (default, started)) :
    defaults env = .ok default ∧ ofEnvironment default env variableFile = .ok started := by
  unfold atStart at imported
  cases made : defaults env with
  | error fault =>
    rw [made] at imported
    cases imported
  | ok default' =>
    rw [made] at imported
    obtain ⟨started', alone, same⟩ := map_eq_ok imported
    cases same
    exact ⟨rfl, alone⟩

theorem ofEnvironment_of_atStart {default started : Settings} {env : Environment}
    {variableFile : Option Text} (imported : atStart env variableFile = .ok (default, started)) :
    ofEnvironment default env variableFile = .ok started :=
  (atStart_eq_ok imported).2

/-- The value that a file spells, with references to variables replaced. -/
def spelled (env : Environment) (file : Text) : Except Yaml.Fault Yaml.Value :=
  Yaml.load (expand env (Text.unifyLineEnds file))

/-- What is the matter with a file that gives no settings. -/
inductive Flawed (env : Environment) (file : Text) : Fault → Prop where
  | invalid (report : Schema.Report) : Flawed env file (.invalid report)
  | unreadable {fault : Yaml.Fault} : spelled env file = .error fault →
      Flawed env file (.yaml fault)
  | misshapen {v : Yaml.Value} (m : Misuse) : spelled env file = .ok v → v.isTruthy = true →
      ¬Shaped v → Flawed env file (.misuse m)

/-- A value that is false counts as one without sections, which is in shape. -/
theorem Flawed.of_top {env : Environment} {file : Text} {v : Yaml.Value} {fault : Fault}
    (read : spelled env file = .ok v)
    (found : (∃ report, fault = .invalid report) ∨ ∃ m, fault = .misuse m ∧
      ¬Shaped (if v.isTruthy then v else .mapping [])) : Flawed env file fault := by
  rcases found with ⟨report, rfl⟩ | ⟨m, rfl, misshapen⟩
  · exact .invalid report
  · cases truthy : v.isTruthy with
    | true =>
      simp only [truthy, if_true] at misshapen
      exact .misshapen m read truthy misshapen
    | false =>
      simp only [truthy, Bool.false_eq_true, if_false] at misshapen
      exact absurd ⟨[], rfl, fun _ _ _ found => by cases found⟩ misshapen

theorem ofFile_error {default started : Settings} {env : Environment} {variableFile : Option Text}
    {file : Text} {fault : Fault} (imported : ofEnvironment default env variableFile = .ok started)
    (refused : ofFile default env variableFile (some file) = .error fault) :
    Flawed env file fault := by
  rcases bind_eq_error refused with unread | ⟨v, read, refused⟩
  · obtain ⟨yaml, read, rfl⟩ := mapError_eq_error unread
    exact .unreadable read
  apply Flawed.of_top (mapError_eq_ok read)
  rcases bind_eq_error refused with top | ⟨environment, _, refused⟩
  · obtain ⟨m, entry, rfl⟩ := mapError_eq_error top
    exact .inr ⟨m, rfl, topEntry_error entry⟩
  rcases bind_eq_error refused with top | ⟨debug, _, refused⟩
  · obtain ⟨m, entry, rfl⟩ := mapError_eq_error top
    exact .inr ⟨m, rfl, topEntry_error entry⟩
  rcases bind_eq_error refused with made | ⟨kubernetes, _, refused⟩
  · exact madeSection_error (by simp [sections, sectionNames, texts]) made
  rcases bind_eq_error refused with made | ⟨exporter, _, refused⟩
  · exact madeSection_error (by simp [sections, sectionNames, texts]) made
  rcases bind_eq_error refused with made | ⟨api, _, refused⟩
  · exact madeSection_error (by simp [sections, sectionNames, texts]) made
  rcases bind_eq_error refused with made | ⟨logging, _, refused⟩
  · exact madeSection_error (by simp [sections, sectionNames, texts]) made
  exact .inl (assemble_error imported _ _ _ _ _ _ refused)

/-- A file whose value is no mapping is asked for what only mappings have. -/
theorem ofFile_of_unmapped (default : Settings) (env : Environment) (variableFile : Option Text)
    {file : Text} {v : Yaml.Value} (read : spelled env file = .ok v) (truthy : v.isTruthy = true)
    (unmapped : ∀ entries, v ≠ .mapping entries) :
    ∃ m, ofFile default env variableFile (some file) = .error (.misuse m) := by
  have value : (Yaml.load (expand env (Text.unifyLineEnds file))).mapError Fault.yaml = .ok v := by
    rw [show Yaml.load (expand env (Text.unifyLineEnds file)) = .ok v from read]
    rfl
  unfold ofFile
  simp only [value, truthy, bind, Except.bind, if_true]
  cases environment : topEntry v (Text.ofString "environment") with
  | error m => exact ⟨m, rfl⟩
  | ok entry =>
    cases debug : topEntry v (Text.ofString "debug") with
    | error m => exact ⟨m, rfl⟩
    | ok entry' =>
      refine ⟨.noMember v.kindName (Text.ofString "get"), ?_⟩
      cases v with
      | mapping entries => exact absurd rfl (unmapped entries)
      | _ => rfl

end Settings

namespace Trouble

end Trouble

namespace Log

theorem levelNamed_text_error {t : Text} {fault : SetupFault}
    (refused : levelNamed (.text t) = .error fault) : fault.isValueFault = true ∨
      (fault = .levelNotLevel patternStyles ∧ t.upper = Text.ofString "_STYLES") := by
  unfold levelNamed at refused
  dsimp only at refused
  split at refused
  · cases refused
    exact .inl rfl
  · split at refused
    · next styles =>
      cases refused
      exact .inr ⟨rfl, styles⟩
    · cases refused

theorem ofPattern_text_error {colored : Bool} {t : Text} {fault : FormatFault}
    (refused : Formatter.ofPattern colored (.text t) = .error fault) :
    fault = .invalidPattern t := by
  unfold Formatter.ofPattern at refused
  dsimp only at refused
  split at refused
  · cases refused
  · split at refused
    · cases refused
    · cases refused
      rfl

theorem openFile_text_error {s : Logging} {unopened : Text → Option FileFault} {level : Int}
    {file : Option Text} {fault : SetupFault}
    (refused : s.openFile unopened level (Settings.optionalText file) = .error fault) :
    ∃ path cause, file = some path ∧ unopened path = some cause ∧ fault = .file cause := by
  unfold Logging.openFile at refused
  split at refused
  · cases refused
  · next named =>
    cases file with
    | none => exact absurd Bool.false_ne_true named
    | some path =>
      rw [show Settings.optionalText (some path) = .text path from rfl] at refused
      dsimp only at refused
      split at refused
      · next cause unable =>
        cases refused
        exact ⟨path, cause, rfl, unable, rfl⟩
      · cases refused

/-- What is the matter with a setup by settings that fails for no value: the level is a name that is
taken for one, or the system refuses the log file. -/
inductive Refuses (unopened : Text → Option FileFault) (l : Settings.Logging) : SetupFault → Prop where
  | level : l.level.upper = Text.ofString "_STYLES" →
      Refuses unopened l (.levelNotLevel patternStyles)
  | file {path : Text} {fault : FileFault} : l.file = some path → unopened path = some fault →
      fault.isValueFault = false → Refuses unopened l (.file fault)

theorem configure_error {logging after : Logging} {unopened : Text → Option FileFault}
    {l : Settings.Logging} {terminal : Bool} {now : Value} {fault : SetupFault}
    (refused : logging.configure unopened (Service.setupOptions l) terminal now =
      (after, some fault)) : fault.isValueFault = true ∨ Refuses unopened l fault := by
  unfold Logging.configure at refused
  split at refused
  · next unnamed =>
    cases refused
    rcases levelNamed_text_error unnamed with value | ⟨rfl, styles⟩
    · exact .inl value
    · exact .inr (.level styles)
  · next level _ =>
    dsimp only at refused
    split at refused
    · next invalid =>
      cases refused
      rw [ofPattern_text_error invalid]
      exact .inl rfl
    · split at refused
      · next unable =>
        cases refused
        obtain ⟨path, cause, named, given, rfl⟩ := openFile_text_error unable
        cases value : cause.isValueFault with
        | true => exact .inl value
        | false => exact .inr (.file named given value)
      · cases refused

end Log

namespace Service

/-- What holds of a service and is kept by the first stages of its setting up holds where these end,
or where the target is settled. -/
theorem setUp_reaches {P : Service → Prop} {w : Surroundings} {s : Service} (start : P s)
    (logs : ∀ s, P s → P (s.setUpLogging w.unopened w.terminal).2)
    (loads : ∀ s, P s → P (s.loadCredentials w.credentials).2)
    (identifies : ∀ s, P s → P s.identify.2) :
    (∃ trouble last, s.setUp w = (.error trouble, last) ∧ P last) ∨
    ∃ clusterId last, s.setUp w = last.aim clusterId ∧ P last := by
  unfold setUp
  have first := logs s start
  rcases logged : s.setUpLogging w.unopened w.terminal with ⟨trouble | done, logging⟩ <;>
    rw [logged] at first
  · exact .inl ⟨trouble, logging, rfl, first⟩
  have second := loads logging first
  rcases loaded : logging.loadCredentials w.credentials with ⟨trouble | done, granted⟩ <;>
    rw [loaded] at second
  · simp only [loaded]
    exact .inl ⟨trouble, granted, rfl, second⟩
  have third := identifies granted second
  rcases identified : granted.identify with ⟨trouble | clusterId, named⟩ <;>
    rw [identified] at third
  · simp only [loaded, identified]
    exact .inl ⟨trouble, named, rfl, third⟩
  · simp only [loaded, identified]
    exact .inr ⟨clusterId, named, rfl, third⟩

theorem setUpLogging_eq (unopened : Text → Option FileFault) (terminal : Bool) (s : Service) :
    (s.setUpLogging unopened terminal).2.settings = s.settings ∧
    (s.setUpLogging unopened terminal).2.exporter.api = s.exporter.api := by
  unfold setUpLogging
  dsimp only
  split
  · exact ⟨rfl, rfl⟩
  · refine ⟨rfl, ?_⟩
    unfold Log.SetupOptions.remarks
    split <;> rfl

theorem loadCredentials_eq (failure? : Option Failure) (s : Service) :
    (s.loadCredentials failure?).2.settings = s.settings ∧
    (s.loadCredentials failure?).2.exporter.api = s.exporter.api := by
  unfold loadCredentials
  dsimp only
  cases s.settings.kubernetes.inCluster <;> cases failure? <;> exact ⟨rfl, rfl⟩

theorem setUpLogging_error {unopened : Text → Option FileFault} {terminal : Bool} {s : Service}
    {trouble : Trouble} (refused : (s.setUpLogging unopened terminal).1 = .error trouble) :
    trouble.isReported = true ∨
      ∃ fault, trouble = .logging fault ∧ Log.Refuses unopened s.settings.logging fault := by
  unfold setUpLogging at refused
  dsimp only at refused
  split at refused
  · next fault failed =>
    cases refused
    rcases Log.configure_error failed with value | refuses
    · exact .inl value
    · exact .inr ⟨fault, rfl, refuses⟩
  · cases refused

theorem loadCredentials_error {failure? : Option Failure} {s : Service} {trouble : Trouble}
    (refused : (s.loadCredentials failure?).1 = .error trouble) :
    ∃ failure, failure? = some failure ∧ trouble = .failure failure := by
  unfold loadCredentials at refused
  dsimp only at refused
  cases failure? with
  | none => cases refused
  | some failure =>
    cases refused
    exact ⟨failure, rfl, rfl⟩

theorem clusterIdOf_error {v : Value} {failure : Failure}
    (refused : clusterIdOf v = .error failure) :
    failure = .clusterIdAbsent ∨ ∃ m, failure = .misuse m := by
  rcases bind_eq_error refused with shape | ⟨spec, _, refused⟩
  · obtain ⟨m, _, rfl⟩ := mapError_eq_error shape
    exact .inr ⟨m, rfl⟩
  rcases bind_eq_error refused with shape | ⟨id, _, refused⟩
  · obtain ⟨m, _, rfl⟩ := mapError_eq_error shape
    exact .inr ⟨m, rfl⟩
  split at refused
  · cases refused
  · cases refused
    exact .inl rfl

theorem identify_error {s : Service} {trouble : Trouble}
    (refused : s.identify.1 = .error trouble) :
    trouble.isReported = true ∨
    (∃ failure, s.exporter.api.clusterVersion = .error failure ∧ trouble = .failure failure) ∨
    ∃ v m, s.exporter.api.clusterVersion = .ok v ∧ clusterIdOf v = .error (.misuse m) ∧
      trouble = .failure (.misuse m) := by
  unfold identify at refused
  split at refused
  · cases refused
  · next unnamed =>
    unfold Exporter.discoverClusterId at refused
    dsimp only [Exporter.call] at refused
    cases answered : s.exporter.api.clusterVersion with
    | error failure =>
      simp only [answered] at refused
      -- a refusal by the API is always reported, a missing cluster version under a name of its own
      cases failure with
      | api status reason =>
        cases refused
        refine .inl ?_
        cases isNotFound status <;> rfl
      | _ =>
        cases refused
        exact .inr (.inl ⟨_, rfl, rfl⟩)
    | ok v =>
      simp only [answered] at refused
      cases identified : clusterIdOf v with
      | ok id =>
        simp only [identified] at refused
        cases refused
      | error failure =>
        simp only [identified] at refused
        cases refused
        rcases clusterIdOf_error identified with rfl | ⟨m, rfl⟩
        · exact .inl rfl
        · exact .inr (.inr ⟨v, m, rfl, identified, rfl⟩)

theorem aim_error {clusterId : Value} {s : Service} {trouble : Trouble}
    (refused : (s.aim clusterId).1 = .error trouble) :
    ∃ interval, trouble = .failure (.intervalNotPositive interval) := by
  unfold aim at refused
  split at refused
  · next failure failed =>
    cases refused
    unfold checkInterval at failed
    dsimp only at failed
    split at failed
    · next absent => cases absent
    · cases failed
    · cases failed
    · cases failed
      exact ⟨_, rfl⟩
  · cases refused

end Service

namespace Program

/-- What a run of the program lets through. -/
inductive LetsThrough (default : Settings) (w : Surroundings) (a : CommandLine.Arguments) :
    Trouble → Prop where
  /-- The system refuses the file. -/
  | unopened {fault : FileFault} : w.file a.config = some (.error fault) →
      fault.isValueFault = false → LetsThrough default w a (.settings (.file fault))
  /-- The file is no YAML, or more of it lies inside each other than is followed. -/
  | unreadable {fault : Yaml.Fault} : w.file a.config = some (.ok file) →
      Settings.spelled w.environment file = .error fault → fault.isValueFault = false →
      LetsThrough default w a (.settings (.yaml fault))
  /-- The file, or one of its sections, is no mapping that can be given by names. -/
  | misshapen {v : Yaml.Value} (m : Misuse) : w.file a.config = some (.ok file) →
      Settings.spelled w.environment file = .ok v → v.isTruthy = true → ¬Settings.Shaped v →
      LetsThrough default w a (.settings (.misuse m))
  /-- The configured level is the name of a table, or the system refuses the log file. -/
  | logging {fault : Log.SetupFault} : Settings.load default w a.config = .ok settings →
      Log.Refuses w.unopened settings.logging fault → LetsThrough default w a (.logging fault)
  | credentials {failure : Failure} : w.credentials = some failure → failure.isExpected = false →
      LetsThrough default w a (.failure failure)
  /-- The request for the cluster version fails in a way of its own. -/
  | lookup {failure : Failure} : w.api.clusterVersion = .error failure →
      failure.isExpected = false → LetsThrough default w a (.failure failure)
  /-- The cluster version is no object, or has a part that is none. -/
  | identity {m : Misuse} : w.api.clusterVersion = .ok v → clusterIdOf v = .error (.misuse m) →
      LetsThrough default w a (.failure (.misuse m))
  /-- Metrics cannot be served because of a request to exit. -/
  | listening {failure : Failure} : w.listening = some failure → failure.isExit = true →
      LetsThrough default w a (.failure failure)

/-- The settings cannot be loaded, or the service for them cannot be set up. -/
inductive StartFails (default : Settings) (logging : Log.Logging) (w : Surroundings)
    (a : CommandLine.Arguments) : Trouble → Prop where
  | unloaded {fault : Settings.Fault} : Settings.load default w a.config = .error fault →
      StartFails default logging w a (.settings fault)
  | notSetUp {trouble : Trouble} : Settings.load default w a.config = .ok settings →
      ((Service.initial (a.onto settings) logging w.api).setUp w).1 = .error trouble →
      StartFails default logging w a trouble

variable {default settings started : Settings} {logging : Log.Logging} {w : Surroundings}
  {a : CommandLine.Arguments} {words : List Text} {trouble : Trouble}

/-- The settings that a path gives fail to be loaded for a value, or are let through. -/
theorem load_error {fault : Settings.Fault}
    (imported : Settings.atStart w.environment w.variableFile = .ok (default, started))
    (refused : Settings.load default w a.config = .error fault) :
    fault.isValueFault = true ∨ LetsThrough default w a (.settings fault) := by
  have alone := Settings.ofEnvironment_of_atStart imported
  unfold Settings.load at refused
  rcases found : w.file a.config with _ | cause | file
  · simp only [found, alone] at refused
    cases refused
  · simp only [found] at refused
    cases refused
    cases value : cause.isValueFault with
    | true => exact .inl value
    | false => exact .inr (.unopened found value)
  · simp only [found] at refused
    cases Settings.ofFile_error alone refused with
    | invalid report => exact .inl rfl
    | misshapen m read truthy misshapen => exact .inr (.misshapen m found read truthy misshapen)
    | @unreadable yaml read =>
      cases value : yaml.isValueFault with
      | true => exact .inl value
      | false => exact .inr (.unreadable found read value)

/-- A service fails to be set up for a cause that is reported, or is let through. -/
theorem setUp_error (loaded : Settings.load default w a.config = .ok settings)
    (refused : ((Service.initial (a.onto settings) logging w.api).setUp w).1 = .error trouble) :
    trouble.isReported = true ∨ LetsThrough default w a trouble := by
  unfold Service.setUp at refused
  obtain ⟨sameSettings, sameApi⟩ :=
    (Service.initial (a.onto settings) logging w.api).setUpLogging_eq w.unopened w.terminal
  rcases logged : (Service.initial (a.onto settings) logging w.api).setUpLogging w.unopened
    w.terminal with ⟨failed | done, s⟩
  · simp only [logged] at refused
    cases refused
    rcases Service.setUpLogging_error (congrArg Prod.fst logged) with value | ⟨fault, rfl, refuses⟩
    · exact .inl value
    · exact .inr (.logging loaded refuses)
  · simp only [logged] at refused sameSettings sameApi
    obtain ⟨sameSettings', sameApi'⟩ := s.loadCredentials_eq w.credentials
    rcases granted : s.loadCredentials w.credentials with ⟨failed | done, s'⟩
    · simp only [granted] at refused
      cases refused
      obtain ⟨failure, given, rfl⟩ := Service.loadCredentials_error (congrArg Prod.fst granted)
      cases expected : failure.isExpected with
      | true => exact .inl expected
      | false => exact .inr (.credentials given expected)
    · simp only [granted] at refused sameSettings' sameApi'
      have api : s'.exporter.api = w.api := sameApi'.trans sameApi
      rcases identified : s'.identify with ⟨failed | clusterId, s''⟩
      · simp only [identified] at refused
        cases refused
        rcases Service.identify_error (congrArg Prod.fst identified) with
          value | ⟨failure, answered, rfl⟩ | ⟨v, m, answered, shape, rfl⟩
        · exact .inl value
        · rw [api] at answered
          cases expected : failure.isExpected with
          | true => exact .inl expected
          | false => exact .inr (.lookup answered expected)
        · rw [api] at answered
          exact .inr (.identity answered shape)
      · simp only [identified] at refused
        obtain ⟨interval, rfl⟩ := Service.aim_error refused
        exact .inl rfl

theorem failedStart_cases (within : trouble.isReported = true ∨ LetsThrough default w a trouble) :
    failedStart trouble = .notStarted trouble ∨
    (failedStart trouble = .escaped trouble ∧ LetsThrough default w a trouble) := by
  unfold failedStart
  cases reported : trouble.isReported with
  | true => exact .inl rfl
  | false =>
    rcases within with value | through
    · exact absurd (reported.symm.trans value) Bool.false_ne_true
    · exact .inr ⟨rfl, through⟩

theorem start_of_startFails (fails : StartFails default logging w a trouble) :
    (start default logging w a).1 = failedStart trouble := by
  unfold start
  cases fails with
  | unloaded refused => simp only [refused]
  | @notSetUp settings _ loaded refused =>
    rcases made : (Service.initial (a.onto settings) logging w.api).setUp w with ⟨outcome, s⟩
    rw [made] at refused
    obtain rfl : outcome = .error trouble := refused
    simp only [loaded, made]

theorem startFails_cases
    (imported : Settings.atStart w.environment w.variableFile = .ok (default, started))
    (fails : StartFails default logging w a trouble) :
    trouble.isReported = true ∨ LetsThrough default w a trouble := by
  cases fails with
  | unloaded refused => exact load_error imported refused
  | notSetUp loaded refused => exact setUp_error loaded refused

/-- A file that is no YAML is let through, unless one of its scalars does not spell its value. -/
theorem run_of_unreadable_file (default : Settings) (logging : Log.Logging)
    (parsed : CommandLine.parse (defaultConfig w.environment) words = .ok (.run a))
    (found : w.file a.config = some (.ok file)) {fault : Yaml.Fault}
    (unreadable : Settings.spelled w.environment file = .error fault)
    (shapeless : fault.isValueFault = false) :
    (run default logging w words).1 = .escaped (.settings (.yaml fault)) := by
  have refused : Settings.load default w a.config = .error (.yaml fault) := by
    unfold Settings.spelled at unreadable
    simp only [Settings.load, found, Settings.ofFile, unreadable]
    rfl
  simp only [run, parsed, start, refused, failedStart]
  exact if_neg (by simpa [Trouble.isReported, Settings.Fault.isValueFault] using shapeless)

/-- A file whose top is no mapping is let through, but for one that counts as empty. -/
theorem run_of_unmapped_file (default : Settings) (logging : Log.Logging)
    (parsed : CommandLine.parse (defaultConfig w.environment) words = .ok (.run a))
    (found : w.file a.config = some (.ok file)) {v : Yaml.Value}
    (read : Settings.spelled w.environment file = .ok v) (truthy : v.isTruthy = true)
    (unmapped : ∀ entries, v ≠ .mapping entries) :
    ∃ m, (run default logging w words).1 = .escaped (.settings (.misuse m)) := by
  obtain ⟨m, refused⟩ :=
    Settings.ofFile_of_unmapped default w.environment w.variableFile read truthy unmapped
  refine ⟨m, ?_⟩
  simp only [run, parsed, start, Settings.load, found, refused, failedStart]
  exact if_neg Bool.false_ne_true

/-- A place with one file, in which a cluster would be found. -/
def holding (content : String) : Surroundings where
  environment := []
  variableFile := none
  file := fun path =>
    if path = Text.ofString "config.yaml" then some (.ok (Text.ofString content)) else none
  unopened _ := none
  terminal := false
  api := Api.empty
  streams := []
  credentials := none
  listening := none
  ending := .stop

/-- The trouble that a run let through. -/
def escaped? : Outcome → Option Trouble
  | .escaped trouble => some trouble
  | _ => none

end Program

end ControlPlaneMetrics
