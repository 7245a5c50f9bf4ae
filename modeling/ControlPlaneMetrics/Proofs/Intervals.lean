import ControlPlaneMetrics.Session
import ControlPlaneMetrics.Proofs.IntervalChecks

/-!
The interval between flushes, by whatever way it comes. An exporter checks it when it is made,
settings when they are read, and a flag is laid over the settings after that. So every interval that
is used is greater than zero, but for a nan that was given directly or by the flag.
-/
namespace ControlPlaneMetrics

open Schema.Coercion (number)

/-! ## Sessions -/

namespace Session

theorem create_of_number {setting : Setting} (api : Api) (numbered : setting.interval.IsNumber) :
    (setting.interval.Admitted → ∃ s, create setting api = .ok s) ∧
    (¬setting.interval.Admitted →
      create setting api = .error (.intervalNotPositive setting.interval)) := by
  unfold create
  rcases checkInterval_cases setting.interval with ⟨checked, -, admitted⟩ | ⟨checked, -, refused⟩ |
    ⟨-, unnumbered⟩
  · rw [checked]
    constructor
    · intro _
      exact ⟨_, rfl⟩
    · intro refused
      exact absurd admitted refused
  · rw [checked]
    constructor
    · intro admitted
      exact absurd admitted refused
    · intro _
      rfl
  · exact absurd numbered unnumbered

theorem create_eq_ok {setting : Setting} {api : Api} {s : Session}
    (made : create setting api = .ok s) : s.setting = setting ∧ setting.interval.Admitted := by
  unfold create at made
  split at made
  · cases made
  · next checked =>
    cases made
    exact ⟨rfl, admitted_of_checkInterval checked⟩

mutual

/-- Only a renewal brings another interval, which has been checked. -/
theorem step_admitted {s : Session} (admitted : s.setting.interval.Admitted) :
    (st : Step) → (s.step st).2.setting.interval.Admitted
  | .renew setting => by
    unfold step renew
    split
    · exact admitted
    · next checked => exact admitted_of_checkInterval checked
  | .loop ticks => by
    unfold step
    exact runTicks_admitted admitted _ ticks
  | .set key enabled => by
    unfold step
    split <;> exact admitted
  | .stop => by
    unfold step stopFlushing
    split <;> exact admitted
  | .aggregate | .put _ _ _ | .delete _ _ | .scriptListing _ | .scriptCluster _ | .discover _
  | .reconcile _ _ | .newStore | .store | .samples | .sample _ _ | .exposition | .hold | .held
  | .writeHeld | .run | .isRunning | .sync | .event _ | .setVersion _ | .stopController
  | .watchOnce _ _ | .runController _ _ | .request _ _ _ => by
    unfold step
    exact admitted

theorem runSteps_admitted {s : Session} (admitted : s.setting.interval.Admitted) :
    (steps : List Step) → (s.runSteps steps).setting.interval.Admitted
  | [] => by
    unfold runSteps
    exact admitted
  | first :: rest => by
    unfold runSteps
    exact runSteps_admitted (step_admitted admitted first) rest

theorem runTicks_admitted {s : Session} (admitted : s.setting.interval.Admitted)
    (interval : Value) :
    (ticks : List (List Step)) → (runTicks interval s ticks).2.2.setting.interval.Admitted
  | [] => by
    unfold runTicks
    exact admitted
  | steps :: rest => by
    unfold runTicks
    have later : ((s.runSteps steps).withExporter
        (s.runSteps steps).exporter.tick).setting.interval.Admitted :=
      runSteps_admitted admitted steps
    exact runTicks_admitted later interval rest

end

theorem runTicks_waits (interval : Value) (s : Session) (ticks : List (List Step)) :
    ∀ v ∈ (runTicks interval s ticks).1, v = interval := by
  induction ticks generalizing s with
  | nil => simp [runTicks]
  | cons steps rest ih =>
    unfold runTicks
    exact List.forall_mem_cons.mpr ⟨rfl, ih _⟩

/-- Each wait of a flush loop is of the interval that the session has. -/
theorem step_loop_waits {s : Session} {ticks : List (List Step)} {waits : List Value}
    {after : List Metrics.Gauge} (ticked : (s.step (.loop ticks)).1 = .ok (.ticked waits after)) :
    ∀ v ∈ waits, v = s.setting.interval := by
  unfold step at ticked
  simp only [Except.ok.injEq, Reply.ticked.injEq] at ticked
  rw [← ticked.1]
  exact runTicks_waits _ s ticks

end Session

/-! ## The service -/

namespace Service

/-- What the service was begun with and what it exports are kept. -/
def Keeps (s next : Service) : Prop := next.settings = s.settings ∧ next.target = s.target

theorem setUpLogging_keeps (unopened : Text → Option FileFault) (terminal : Bool) (s : Service) :
    s.Keeps (s.setUpLogging unopened terminal).2 := by
  unfold setUpLogging
  dsimp only
  split <;> exact ⟨rfl, rfl⟩

theorem loadCredentials_keeps (failure? : Option Failure) (s : Service) :
    s.Keeps (s.loadCredentials failure?).2 := by
  unfold loadCredentials
  dsimp only
  cases s.settings.kubernetes.inCluster <;> cases failure? <;> exact ⟨rfl, rfl⟩

theorem identify_keeps (s : Service) : s.Keeps s.identify.2 := by
  unfold identify
  split
  · exact ⟨rfl, rfl⟩
  · split <;> exact ⟨rfl, rfl⟩

theorem aim_cases (clusterId : Value) (s : Service) :
    (s.aim clusterId).2.settings = s.settings ∧
    (((∃ target, (s.aim clusterId).1 = .ok target) ∧
        (Value.float s.settings.exporter.interval).Admitted) ∨
      ((∃ trouble, (s.aim clusterId).1 = .error trouble) ∧
        (s.aim clusterId).2.target = s.target)) := by
  unfold aim
  rcases checkInterval_cases (.float s.settings.exporter.interval) with
    ⟨checked, -, admitted⟩ | ⟨checked, -⟩ | ⟨-, unnumbered⟩
  · rw [checked]
    dsimp only
    split
    · exact ⟨rfl, .inl ⟨⟨_, rfl⟩, admitted⟩⟩
    · exact ⟨rfl, .inl ⟨⟨_, rfl⟩, admitted⟩⟩
  · rw [checked]
    exact ⟨rfl, .inr ⟨⟨_, rfl⟩, rfl⟩⟩
  · exact absurd trivial unnumbered

theorem Keeps.trans {s next last : Service} (first : s.Keeps next) (second : next.Keeps last) :
    s.Keeps last :=
  ⟨second.1.trans first.1, second.2.trans first.2⟩

/-- A service that is set up has an interval that was admitted, and one that is not exports
nothing. -/
theorem setUp_cases (w : Surroundings) (s : Service) :
    (s.setUp w).2.settings = s.settings ∧
    (((∃ target, (s.setUp w).1 = .ok target) ∧
        (Value.float s.settings.exporter.interval).Admitted) ∨
      ((∃ trouble, (s.setUp w).1 = .error trouble) ∧ (s.setUp w).2.target = s.target)) := by
  have reached := setUp_reaches (P := s.Keeps) (w := w) ⟨rfl, rfl⟩
    (fun t kept => kept.trans (t.setUpLogging_keeps w.unopened w.terminal))
    (fun t kept => kept.trans (t.loadCredentials_keeps w.credentials))
    (fun t kept => kept.trans t.identify_keeps)
  rcases reached with ⟨trouble, last, reached, kept⟩ | ⟨clusterId, last, reached, kept⟩
  · rw [reached]
    exact ⟨kept.1, .inr ⟨⟨trouble, rfl⟩, kept.2⟩⟩
  · obtain ⟨same, aimed⟩ := last.aim_cases clusterId
    rw [kept.1, kept.2] at aimed
    rw [reached]
    exact ⟨same.trans kept.1, aimed⟩

theorem serveMetrics_settings (failure? : Option Failure) (s : Service) :
    (s.serveMetrics failure?).2.settings = s.settings := by
  cases failure? <;> rfl

theorem startThreads_settings (target : Target) (s : Service) :
    (s.startThreads target).settings = s.settings := by
  unfold startThreads
  dsimp only
  split <;> rfl

theorem runController_settings (target : Target) (w : Surroundings) (s : Service) :
    (s.runController target w).settings = s.settings := by
  unfold runController
  dsimp only
  split
  · split <;> rfl
  · split
    · split <;> rfl
    · rfl

theorem finish_settings (s : Service) : s.finish.settings = s.settings := by
  unfold finish
  dsimp only
  split <;> rfl

theorem run_settings (target : Target) (w : Surroundings) (s : Service) :
    (s.run target w).2.settings = s.settings := by
  have serves := s.serveMetrics_settings w.listening
  unfold run
  rcases served : s.serveMetrics w.listening with ⟨failure | done, next⟩ <;> rw [served] at serves
  · exact serves
  · exact (finish_settings _).trans ((runController_settings target w _).trans
      ((startThreads_settings target next).trans serves))

end Service

namespace Program

variable {default settings started : Settings} {logging : Log.Logging} {w : Surroundings}
  {a : CommandLine.Arguments} {words : List Text}

theorem finish_settings (target : Target) (w : Surroundings) (s : Service) :
    (finish target w s).2.settings = s.settings := by
  have kept := s.run_settings target w
  unfold finish
  split
  · next ran => rw [ran] at kept; exact kept
  · next ran => rw [ran] at kept; exact kept
  · next ran =>
    rw [ran] at kept
    split <;> exact kept

/-- A start fails before anything is exported, or begins a service with an interval that was
admitted. -/
theorem start_interval_cases (default : Settings) (logging : Log.Logging) (w : Surroundings)
    (a : CommandLine.Arguments) :
    ((∃ trouble, StartFails default logging w a trouble) ∧
      ∀ s, (start default logging w a).2 = some s → s.target = none) ∨
    ∃ settings, Settings.load default w a.config = .ok settings ∧
      (Value.float (a.onto settings).exporter.interval).Admitted ∧
      ∀ s, (start default logging w a).2 = some s → s.settings = a.onto settings := by
  unfold start
  cases loaded : Settings.load default w a.config with
  | error fault =>
    refine .inl ⟨⟨.settings fault, .unloaded loaded⟩, ?_⟩
    intro s same
    cases same
  | ok settings =>
    obtain ⟨kept, aimed⟩ := (Service.initial (a.onto settings) logging w.api).setUp_cases w
    rcases made : (Service.initial (a.onto settings) logging w.api).setUp w with
      ⟨trouble | target, s⟩
    · rw [made] at kept aimed
      rcases aimed with ⟨⟨target, done⟩, -⟩ | ⟨-, unaimed⟩
      · cases done
      · refine .inl ⟨⟨trouble, .notSetUp loaded (congrArg Prod.fst made)⟩, fun last same => ?_⟩
        simp only [made, Option.some.injEq] at same
        exact same ▸ unaimed
    · rw [made] at kept aimed
      rcases aimed with ⟨-, admitted⟩ | ⟨⟨trouble, failed⟩, -⟩
      · refine .inr ⟨settings, rfl, admitted, fun last same => ?_⟩
        simp only [made, Prod.map_snd, Option.some.injEq] at same
        exact same ▸ (finish_settings target w s).trans kept
      · cases failed

/-- The program ends without a service, or with one for which nothing is exported, and has the exit
status one unless a trouble is let through. -/
structure Refuses (default : Settings) (logging : Log.Logging) (w : Surroundings)
    (words : List Text) (a : CommandLine.Arguments) : Prop where
  unserved : ∀ s, (run default logging w words).2 = some s → s.target = none
  ends : (run default logging w words).1.status? = some 1 ∨
    ∃ trouble, (run default logging w words).1 = .escaped trouble ∧ LetsThrough default w a trouble

theorem refuses_of_startFails
    (imported : Settings.atStart w.environment w.variableFile = .ok (default, started))
    (parsed : CommandLine.parse (defaultConfig w.environment) words = .ok (.run a))
    {trouble : Trouble} (fails : StartFails default logging w a trouble)
    (unserved : ∀ s, (start default logging w a).2 = some s → s.target = none) :
    Refuses default logging w words a := by
  have begun : run default logging w words = start default logging w a := by
    simp only [run, parsed]
  constructor
  · rw [begun]
    exact unserved
  · rw [begun, start_of_startFails fails]
    rcases failedStart_cases (startFails_cases imported fails) with ended | ⟨ended, through⟩
    · rw [ended]
      exact .inl rfl
    · exact .inr ⟨trouble, ended, through⟩

theorem runAlone_interval {path : Option Text} {s : Service}
    (served : (runAlone default logging w path).2 = some s) :
    (Value.float s.settings.exporter.interval).Positive := by
  unfold runAlone at served
  cases loaded : Settings.load default w (path.getD []) with
  | error fault =>
    rw [loaded] at served
    cases served
  | ok settings =>
    have positive := Settings.load_interval loaded
    obtain ⟨kept, -⟩ := (Service.initial settings logging w.api).setUp_cases w
    rcases made : (Service.initial settings logging w.api).setUp w with ⟨trouble | target, set⟩
    · simp only [loaded, made, Option.some.injEq] at served
      rw [made] at kept
      rw [← served, kept]
      exact positive
    · rw [made] at kept
      have ran := set.run_settings target w
      rcases run : set.run target w with ⟨failure | done, last⟩
      · simp only [loaded, made, run, Option.some.injEq] at served
        rw [run] at ran
        rw [← served, ran, kept]
        exact positive
      · simp only [loaded, made, run, Option.some.injEq] at served
        rw [run] at ran
        rw [← served, ran, kept]
        exact positive

/-- The flag is laid over an interval that is greater than zero. -/
theorem run_interval {s : Service} (served : (run default logging w words).2 = some s)
    (aimed : s.target ≠ none) : (Value.float s.settings.exporter.interval).Positive ∨
      (s.settings.exporter.interval = .nan ∧
        ∃ a, CommandLine.parse (defaultConfig w.environment) words = .ok (.run a) ∧
          a.interval = some .nan) := by
  unfold run at served
  cases parsed : CommandLine.parse (defaultConfig w.environment) words with
  | error fault =>
    rw [parsed] at served
    cases served
  | ok request =>
    rw [parsed] at served
    cases request with
    | help => cases served
    | run a =>
      rcases start_interval_cases default logging w a with ⟨-, unserved⟩ |
        ⟨settings, loaded, admitted, kept⟩
      · exact absurd (unserved s served) aimed
      · rw [kept s served]
        rcases admitted with positive | nan
        · exact .inl positive
        · have nan : a.interval.getD settings.exporter.interval = .nan := Value.float.inj nan
          refine .inr ⟨nan, a, rfl, ?_⟩
          cases flag : a.interval with
          | some x => rw [flag] at nan; exact congrArg some nan
          | none =>
            rw [flag] at nan
            have positive := Settings.load_interval loaded
            rw [show settings.exporter.interval = .nan from nan] at positive
            exact positive.elim

/-- A flag that is neither greater than zero nor nan. -/
theorem refuses_flag
    (imported : Settings.atStart w.environment w.variableFile = .ok (default, started))
    (logging : Log.Logging)
    (parsed : CommandLine.parse (defaultConfig w.environment) words = .ok (.run a)) {x : Binary64}
    (flag : a.interval = some x) (refused : ¬(Value.float x).Admitted) :
    Refuses default logging w words a := by
  rcases start_interval_cases default logging w a with ⟨⟨trouble, fails⟩, unserved⟩ |
    ⟨settings, -, admitted, -⟩
  · exact refuses_of_startFails imported parsed fails unserved
  · rw [CommandLine.Arguments.onto, flag] at admitted
    exact absurd admitted refused

/-- A file from which the interval is read as a number that is not greater than zero. -/
theorem refuses_file
    (imported : Settings.atStart w.environment w.variableFile = .ok (default, started))
    (logging : Log.Logging)
    (parsed : CommandLine.parse (defaultConfig w.environment) words = .ok (.run a)) {file : Text}
    {v : Value} (found : w.file a.config = some (.ok file))
    (gives : Settings.GivesInterval default w.environment file v) (refused : ¬v.Positive) :
    Refuses default logging w words a := by
  obtain ⟨fault, unread⟩ := Settings.ofFile_refuses w.variableFile gives refused
  have unloaded : Settings.load default w a.config = .error fault := by
    simp only [Settings.load, found, unread]
  rcases start_interval_cases default logging w a with ⟨⟨trouble, fails⟩, unserved⟩ |
    ⟨settings, loaded, -⟩
  · exact refuses_of_startFails imported parsed fails unserved
  · rw [unloaded] at loaded
    cases loaded

/-- For whatever the program is started with, once the settings could be imported. Of numbers, an
exporter that is made directly admits those greater than zero, and nan, and refuses all others; so
it is with each exporter and each wait of its flush loop in a session. The interval of all settings
is greater than zero, and so is that of every service for which something is exported, but for a nan
from the flag. A flag that is neither, and a file from which a number is read that is not greater
than zero, leave the program without such a service, and with the exit status one unless some other
trouble is let through; a variable from which such a number is read stops the import. -/
theorem intervals_are_positive_or_nan (default started : Settings) (logging : Log.Logging)
    (w : Surroundings) (words : List Text)
    (imported : Settings.atStart w.environment w.variableFile = .ok (default, started)) :
    (∀ setting api, setting.interval.IsNumber →
      (setting.interval.Admitted → ∃ s, Session.create setting api = .ok s) ∧
      (¬setting.interval.Admitted →
        Session.create setting api = .error (.intervalNotPositive setting.interval))) ∧
    (∀ setting api s steps, Session.create setting api = .ok s →
      (s.runSteps steps).setting.interval.Admitted ∧
      ∀ ticks waits after, ((s.runSteps steps).step (.loop ticks)).1 = .ok (.ticked waits after) →
        ∀ v ∈ waits, v.Admitted) ∧
    (Value.float started.exporter.interval).Positive ∧
    (∀ path settings, Settings.load default w path = .ok settings →
      (Value.float settings.exporter.interval).Positive) ∧
    (∀ path s, (runAlone default logging w path).2 = some s →
      (Value.float s.settings.exporter.interval).Positive) ∧
    (∀ s, (run default logging w words).2 = some s → s.target ≠ none →
      (Value.float s.settings.exporter.interval).Positive ∨
      (s.settings.exporter.interval = .nan ∧
        ∃ a, CommandLine.parse (defaultConfig w.environment) words = .ok (.run a) ∧
          a.interval = some .nan)) ∧
    (∀ a, CommandLine.parse (defaultConfig w.environment) words = .ok (.run a) →
      (∃ x, a.interval = some x ∧ ¬(Value.float x).Admitted) ∨
        (∃ file v, w.file a.config = some (.ok file) ∧
          Settings.GivesInterval default w.environment file v ∧ ¬v.Positive) →
      Refuses default logging w words a) ∧
    (∀ env variableFile v, Settings.VariablesGive env variableFile v → ¬v.Positive →
      ∃ fault, Settings.atStart env variableFile = .error fault) := by
  refine ⟨?_, ?_, ?_, ?_, ?_, ?_, ?_, ?_⟩
  · intro setting api numbered
    exact Session.create_of_number api numbered
  · intro setting api s steps made
    obtain ⟨same, admitted⟩ := Session.create_eq_ok made
    rw [← same] at admitted
    have later := Session.runSteps_admitted admitted steps
    constructor
    · exact later
    · intro ticks waits after ticked v member
      rw [Session.step_loop_waits ticked v member]
      exact later
  · exact Settings.ofEnvironment_interval (Settings.ofEnvironment_of_atStart imported)
  · intro path settings loaded
    exact Settings.load_interval loaded
  · intro path s served
    exact runAlone_interval served
  · intro s served aimed
    exact run_interval served aimed
  · intro a parsed given
    rcases given with ⟨x, flag, refused⟩ | ⟨file, v, found, gives, refused⟩
    · exact refuses_flag imported logging parsed flag refused
    · exact refuses_file imported logging parsed found gives refused
  · intro env variableFile v gives refused
    exact Settings.atStart_refuses gives refused

/-- The setting of an exporter with an interval. -/
def settingOf (interval : Value) : Setting where
  interval := interval
  target := ⟨.text (Text.ofString "c1"), .text (Text.ofString "machines"), .int 30, .int 300⟩
  config := .object []

/-- The path and the interval that a command line gives. -/
def taken? (words : List Text) : Option (Text × Option Binary64) :=
  (CommandLine.parse (defaultConfig []) words).toOption.bind fun
    | .run a => some (a.config, a.interval)
    | .help => none

theorem parsed_of_taken? {path : Text} {x? : Option Binary64}
    (taken : taken? words = some (path, x?)) :
    ∃ a, CommandLine.parse (defaultConfig []) words = .ok (.run a) ∧ a.config = path ∧
      a.interval = x? := by
  obtain ⟨request, parsed, shown⟩ := Option.bind_eq_some_iff.mp taken
  cases request with
  | help => cases shown
  | run a =>
    cases shown
    exact ⟨a, eq_ok_of_toOption parsed, rfl, rfl⟩

/-- Two is admitted directly. Zero is refused from the flag, and nan from a file and from a
variable. -/
theorem intervals_are_checked_on_each_way :
    let named := ["--config", "config.yaml"].map Text.ofString
    let flagged := named ++ ["--aggregation-interval", "0"].map Text.ofString
    let file := "exporter: \x7baggregation_interval: .nan\x7d"
    let env := [(Text.ofString "EXPORTER_AGGREGATION_INTERVAL", Text.ofString "nan")]
    ∃ default started a b, Settings.atStart [] none = .ok (default, started) ∧
      (∃ s, Session.create (settingOf (.int 2)) Api.empty = .ok s) ∧
      Refuses default ⟨30, [], 0, [], []⟩ (holding "") flagged a ∧
      Refuses default ⟨30, [], 0, [], []⟩ (holding file) named b ∧
      ∃ fault, Settings.atStart env none = .error fault := by
  intro named flagged file env
  have nan : ¬(Value.float .nan).Positive := id
  have refused : ¬(Value.float .zero).Admitted := by
    simp [Value.Admitted, Value.Positive, Binary64.zero]
  -- the default settings are what the kernel makes of an empty environment
  have evaluated : ((Settings.atStart [] none).toOption.bind fun both =>
      (Settings.spelled [] (Text.ofString file)).toOption.bind fun top =>
        (Settings.fileSection (Settings.topOf top)
            (Settings.sections both.1 []).exporter).toOption.bind fun given =>
          (Settings.intervalSource? given (Settings.Environment.lowered [])).bind fun source =>
            (number source).toOption) = some .nan := by decide +kernel
  obtain ⟨⟨default, started⟩, made, evaluated⟩ := Option.bind_eq_some_iff.mp evaluated
  obtain ⟨top, spelt, evaluated⟩ := Option.bind_eq_some_iff.mp evaluated
  obtain ⟨given, found, evaluated⟩ := Option.bind_eq_some_iff.mp evaluated
  obtain ⟨source, sourced, numbered⟩ := Option.bind_eq_some_iff.mp evaluated
  have imported : Settings.atStart [] none = .ok (default, started) := eq_ok_of_toOption made
  have gives : Settings.GivesInterval default [] (Text.ofString file) (.float .nan) :=
    ⟨top, given, source, eq_ok_of_toOption spelt, eq_ok_of_toOption found, sourced,
      .spelt (eq_ok_of_toOption numbered)⟩
  have varied : Settings.VariablesGive env none (.float .nan) := by
    have evaluated : ((Settings.defaults env).toOption.bind fun default =>
        (Settings.Layer.ofVariables default env none).toOption.bind fun whole =>
          (Settings.intervalSource? (Settings.givenBy whole.exporter)
              (Settings.Environment.lowered env)).bind fun source =>
            (number source).toOption) = some .nan := by decide +kernel
    intro default made whole layered
    simp only [made, layered, Except.toOption, Option.bind_some] at evaluated
    obtain ⟨source, sourced, numbered⟩ := Option.bind_eq_some_iff.mp evaluated
    exact ⟨source, sourced, .spelt (eq_ok_of_toOption numbered)⟩
  obtain ⟨a, parsed, -, flag⟩ : ∃ a, CommandLine.parse (defaultConfig []) flagged = .ok (.run a) ∧
      a.config = Text.ofString "config.yaml" ∧ a.interval = some .zero :=
    parsed_of_taken? (by decide +kernel)
  obtain ⟨b, parsed', path, -⟩ : ∃ b, CommandLine.parse (defaultConfig []) named = .ok (.run b) ∧
      b.config = Text.ofString "config.yaml" ∧ b.interval = none :=
    parsed_of_taken? (by decide +kernel)
  obtain ⟨direct, -, -, -, -, -, refuses, stops⟩ := intervals_are_positive_or_nan default started
    ⟨30, [], 0, [], []⟩ (holding "") flagged imported
  obtain ⟨-, -, -, -, -, -, refuses', -⟩ := intervals_are_positive_or_nan default started
    ⟨30, [], 0, [], []⟩ (holding file) named imported
  have two : (Value.int 2).Positive := by simp [Value.Positive]
  exact ⟨default, started, a, b, imported, (direct (settingOf (.int 2)) _ trivial).1 (.inl two),
    refuses a parsed (.inl ⟨.zero, flag, refused⟩),
    refuses' b parsed' (.inr ⟨_, _, if_pos path, gives, nan⟩), stops env none _ varied nan⟩

/-- Nan is not greater than zero, and an exporter that is made directly admits it. -/
theorem creation_admits_nan : ¬∀ (setting : Setting) (api : Api) (s : Session),
    Session.create setting api = .ok s → setting.interval.Positive := by
  intro positive
  exact positive (settingOf (.float .nan)) Api.empty _ rfl

end Program

end ControlPlaneMetrics
