import ControlPlaneMetrics.Json.Reader
import ControlPlaneMetrics.Failure
import ControlPlaneMetrics.File
import ControlPlaneMetrics.Schema.Coercion
import ControlPlaneMetrics.Settings.Basic
import ControlPlaneMetrics.Settings.VariableFile
import ControlPlaneMetrics.Yaml.Value

/-!
Where settings come from. A field is taken from the first of these that has it: the
file, the environment, the file of variables (for what is not in a section), and the
default, which the environment may set too. A section may also be given as a whole, as
a JSON object in a variable.
-/
namespace ControlPlaneMetrics.Settings

open Schema (Scalar Flaw Report Checked)

inductive Origin where
  | environment
  | variableFile
  deriving DecidableEq

inductive Fault where
  /-- A default that should be a number is none. -/
  | defaultInteger (t : Text)
  | defaultIntegerTooLong (digits : Nat)
  | defaultNumber (t : Text)
  /-- A variable that should hold a section as JSON does not. -/
  | sectionUnreadable (name : Text) (origin : Origin)
  | nestedTooDeep (container : Json.Container)
  | invalid (report : Report)
  /-- The file is there, and the system gives no text of it. -/
  | file (fault : FileFault)
  | yaml (fault : Yaml.Fault)
  | misuse (m : Misuse)

/-- Whether the fault is about a value that cannot be accepted, and not about the shape of a
file. -/
def Fault.isValueFault : Fault → Bool
  | nestedTooDeep _ => false
  | file fault => fault.isValueFault
  | yaml fault => fault.isValueFault
  | misuse _ => false
  | _ => true

/-- What is said of a fault; a file that is no YAML has words that are not kept. What stands below
the headline of a report is worded by the schema language, which shows what was given: `below` says
how. -/
def Fault.message? (below : Report → Text) : Fault → Option Text
  | defaultInteger t =>
    some (Text.ofString "invalid literal for int() with base 10: " ++ t.quoted)
  | defaultIntegerTooLong digits => some (Json.Fault.message [] (.integerTooLong digits))
  | defaultNumber t => some (Text.ofString "could not convert string to float: " ++ t.quoted)
  | sectionUnreadable name origin =>
    some (Text.ofString "error parsing value for field \"" ++ name ++
      Text.ofString "\" from source \"" ++ Text.ofString (match origin with
        | .environment => "EnvSettingsSource\""
        | .variableFile => "DotEnvSettingsSource\""))
  | nestedTooDeep container => some (Json.Fault.message [] (.nestedTooDeep container))
  | invalid report => some (report.headline ++ below report)
  | file fault => some fault.message
  | yaml fault => fault.message?
  | misuse m => some m.message

/-! ### Defaults -/

def isTrueWord (t : Text) : Bool := t.lower = Text.ofString "true"

def defaultInteger (t : Text) : Except Fault Int :=
  match parseInteger t with
  | .ok n => .ok n
  | .error .malformed => .error (.defaultInteger t)
  | .error (.tooLong digits) => .error (.defaultIntegerTooLong digits)

def defaultNumber (t : Text) : Except Fault Binary64 :=
  match parseDouble? t with
  | some x => .ok x
  | none => .error (.defaultNumber t)

def logFormat : String := "%(asctime)s - %(name)s - %(levelname)s - %(message)s"

/-- The settings that hold where nothing else is given, which variables of exactly these names
determine. -/
def defaults (env : Environment) : Except Fault Settings := do
  let requestTimeout ← defaultInteger (env.getD "KUBERNETES_REQUEST_TIMEOUT" "30")
  let watchTimeout ← defaultInteger (env.getD "KUBERNETES_WATCH_TIMEOUT" "300")
  let interval ← defaultNumber (env.getD "EXPORTER_AGGREGATION_INTERVAL" "60")
  let metricsPort ← defaultInteger (env.getD "EXPORTER_METRICS_PORT" "8383")
  let port ← defaultInteger (env.getD "EXPORTER_API_PORT" "8081")
  .ok {
    environment := env.getD "ENVIRONMENT" "production"
    debug := isTrueWord (env.getD "DEBUG" "false")
    kubernetes := {
      inCluster := isTrueWord (env.getD "KUBERNETES_IN_CLUSTER" "true")
      kubeconfigPath := lookup? (Text.ofString "KUBECONFIG") env
      requestTimeout := requestTimeout
      watchTimeout := watchTimeout }
    exporter := {
      clusterId := lookup? (Text.ofString "EXPORTER_CLUSTER_ID") env
      interval := interval
      ns := env.getD "EXPORTER_CPMS_NAMESPACE" "openshift-machine-api"
      metricsPort := metricsPort }
    api := {
      enabled := isTrueWord (env.getD "EXPORTER_API_ENABLED" "true")
      host := env.getD "EXPORTER_API_HOST" "0.0.0.0"
      port := port }
    logging := {
      level := env.getD "LOG_LEVEL" "INFO"
      format := env.getD "LOG_FORMAT" logFormat
      file := lookup? (Text.ofString "LOG_FILE") env
      colors := isTrueWord (env.getD "LOG_COLORS" "true") } }

/-! ### Sections -/

abbrev Given := List (Text × Scalar)

/-- What was given for a field: under its exact name, or else under the name in other letter
case. -/
def Given.find? (given : Given) (field : Text) : Option Scalar :=
  match lookup? field given with
  | some v => some v
  | none => (List.find? (fun (name, _) => name.lower = field) given).map (·.2)

def field (given : Given) (env : Environment) (start name : String)
    (coerce : Scalar → Except Flaw α) (default : Checked α) : Checked α :=
  let name := Text.ofString name
  let v? := match given.find? name with
    | some v => some v
    | none => (lookup? (Text.ofString start ++ name) env).map .text
  match v? with
  | none => Checked.under name default
  | some v => match coerce v with
    | .ok a => .ok a
    | .error flaw => .error [⟨[name], flaw⟩]

def textOrNull : Scalar → Except Flaw (Option Text) :=
  Schema.Coercion.optional Schema.Coercion.text

def Kubernetes.read (default : Kubernetes) (env : Environment) (given : Given) :
    Checked Kubernetes :=
  let field {α : Type} := @field α given env "kubernetes_"
  (Checked.both (field "in_cluster" Schema.Coercion.truth (.ok default.inCluster)) <|
    Checked.both (field "kubeconfig_path" textOrNull (.ok default.kubeconfigPath)) <|
    Checked.both (field "request_timeout" Schema.Coercion.integer (.ok default.requestTimeout))
      (field "watch_timeout" Schema.Coercion.integer (.ok default.watchTimeout))).map
    fun (inCluster, path, request, watch) => ⟨inCluster, path, request, watch⟩

/-- A default, checked as a given value is. -/
def positive (x : Binary64) : Checked Binary64 :=
  (Schema.Coercion.positiveNumber (.float x)).mapError fun flaw => [⟨[], flaw⟩]

def Export.read (default : Export) (env : Environment) (given : Given) : Checked Export :=
  let field {α : Type} := @field α given env "exporter_"
  (Checked.both (field "cluster_id" textOrNull (.ok default.clusterId)) <|
    Checked.both (field "aggregation_interval" Schema.Coercion.positiveNumber
      (positive default.interval)) <|
    Checked.both (field "cpms_namespace" Schema.Coercion.text (.ok default.ns))
      (field "metrics_port" Schema.Coercion.integer (.ok default.metricsPort))).map
    fun (clusterId, interval, ns, port) => ⟨clusterId, interval, ns, port⟩

def Endpoint.read (default : Endpoint) (env : Environment) (given : Given) : Checked Endpoint :=
  let field {α : Type} := @field α given env "exporter_api_"
  (Checked.both (field "enabled" Schema.Coercion.truth (.ok default.enabled)) <|
    Checked.both (field "host" Schema.Coercion.text (.ok default.host))
      (field "port" Schema.Coercion.integer (.ok default.port))).map
    fun (enabled, host, port) => ⟨enabled, host, port⟩

def Logging.read (default : Logging) (env : Environment) (given : Given) : Checked Logging :=
  let field {α : Type} := @field α given env "log_"
  (Checked.both (field "level" Schema.Coercion.text (.ok default.level)) <|
    Checked.both (field "format" Schema.Coercion.text (.ok default.format)) <|
    Checked.both (field "file" textOrNull (.ok default.file))
      (field "colors" Schema.Coercion.truth (.ok default.colors))).map
    fun (level, format, file, colors) => ⟨level, format, file, colors⟩

/-- A section's reader, and the name of the record that its problems are reported for. -/
structure Section (α : Type) where
  name : Text
  record : Text
  fields : List Text
  read : Given → Checked α

namespace Section

/-- The section or the report of its problems. -/
def build (s : Section α) (given : Given) : Except Fault α :=
  (s.read given).mapError fun problems => .invalid ⟨s.record, problems⟩

end Section

structure Sections where
  kubernetes : Section Kubernetes
  exporter : Section Export
  api : Section Endpoint
  logging : Section Logging

def texts (names : List String) : List Text := names.map Text.ofString

def sections (default : Settings) (env : Environment) : Sections :=
  let low := env.lowered
  { kubernetes := ⟨Text.ofString "kubernetes", Text.ofString "KubernetesSettings",
      texts ["in_cluster", "kubeconfig_path", "request_timeout", "watch_timeout"],
      default.kubernetes.read low⟩
    exporter := ⟨Text.ofString "exporter", Text.ofString "ExporterSettings",
      texts ["cluster_id", "aggregation_interval", "cpms_namespace", "metrics_port"],
      default.exporter.read low⟩
    api := ⟨Text.ofString "api", Text.ofString "APISettings",
      texts ["enabled", "host", "port"], default.api.read low⟩
    logging := ⟨Text.ofString "logging", Text.ofString "LoggingSettings",
      texts ["level", "format", "file", "colors"], default.logging.read low⟩ }

/-! ### All settings -/

/-- A section as a variable gives it: null counts as nothing. -/
def Section.parse (s : Section α) (origin : Origin) (t : Text) : Except Fault (Option Value) :=
  match Json.parse t with
  | .error (.nestedTooDeep container) => .error (.nestedTooDeep container)
  | .error _ => .error (.sectionUnreadable s.name origin)
  | .ok .null => .ok none
  | .ok (.object members) =>
    .ok (some (.object (members.foldl (fun done (name, v) =>
      match s.fields.find? (name.lower = ·) with
      | some field => write field v done
      | none => write name v done) [])))
  | .ok v => .ok (some v)

/-- A section that one place gives, laid over what the other gives. -/
def overlay (above below : Option Value) : Option Value :=
  match above, below with
  | some (.object upper), some (.object lower) =>
    some (.object (upper.foldl (fun done (name, v) => write name v done) lower))
  | some v, _ => some v
  | none, below => below

/-- What the environment and the file of variables give for the settings that are in no section,
and for the sections. -/
structure Layer where
  environment : Option Text
  debug : Option Text
  kubernetes : Option Value
  exporter : Option Value
  api : Option Value
  logging : Option Value

/-- The variables of one place, named in lower case; one without a value counts as not set. -/
def Layer.read (sections : Sections) (origin : Origin) (set : List (Text × Option Text)) :
    Except Fault Layer := do
  let valueOf (name : Text) : Option Text := (lookup? name set).join
  let given {α : Type} (s : Section α) : Except Fault (Option Value) :=
    match valueOf s.name with
    | none => .ok none
    | some t => s.parse origin t
  let kubernetes ← given sections.kubernetes
  let exporter ← given sections.exporter
  let api ← given sections.api
  let logging ← given sections.logging
  .ok ⟨valueOf (Text.ofString "environment"), valueOf (Text.ofString "debug"), kubernetes,
    exporter, api, logging⟩

/-- One layer over another. -/
def Layer.onto (above below : Layer) : Layer where
  environment := above.environment.or below.environment
  debug := above.debug.or below.debug
  kubernetes := overlay above.kubernetes below.kubernetes
  exporter := overlay above.exporter below.exporter
  api := overlay above.api below.api
  logging := overlay above.logging below.logging

/-- A section: as it was made before, or read from what the variables give, or from nothing. Only in
the last case is a problem reported for the section itself. -/
def Section.settle (s : Section α) (made : Option α) (given : Option Value) :
    Except Fault (Checked α) :=
  match made, given with
  | some a, _ => .ok (.ok a)
  | none, none => (s.build []).map .ok
  | none, some (.object members) =>
    .ok (Checked.under s.name (s.read (members.map fun (name, v) => (name, v.scalar))))
  | none, some _ => .ok (Checked.under s.name (.flawed (.notRecord s.record)))

/-- What was made before the settings as a whole. -/
structure Made where
  environment : Option Scalar
  debug : Option Scalar
  kubernetes : Option Kubernetes
  exporter : Option Export
  api : Option Endpoint
  logging : Option Logging

def Made.nothing : Made := ⟨none, none, none, none, none, none⟩

/-- A setting that is in no section. -/
def topField (name : String) (made : Option Scalar) (given : Option Text)
    (coerce : Scalar → Except Flaw α) (default : α) : Checked α :=
  match made.or (given.map .text) with
  | none => .ok default
  | some v => (coerce v).mapError fun flaw => [⟨[Text.ofString name], flaw⟩]

/-- The settings as a whole, from what was made before and what variables give. -/
def assemble (default : Settings) (env : Environment) (variableFile : Option Text) (made : Made) :
    Except Fault Settings := do
  let sections := sections default env
  let upper ← Layer.read sections .environment
    (env.lowered.map fun (name, value) => (name, some value))
  let set := VariableFile.load env (Text.unifyLineEnds (variableFile.getD []))
  let lower ← Layer.read sections .variableFile
    (set.foldl (fun low (name, value) => write name.lower value low) [])
  let given := upper.onto lower
  let environment := topField "environment" made.environment given.environment
    Schema.Coercion.text default.environment
  let debug := topField "debug" made.debug given.debug Schema.Coercion.truth default.debug
  let kubernetes ← sections.kubernetes.settle made.kubernetes given.kubernetes
  let exporter ← sections.exporter.settle made.exporter given.exporter
  let api ← sections.api.settle made.api given.api
  let logging ← sections.logging.settle made.logging given.logging
  match Checked.both environment <| Checked.both debug <| Checked.both kubernetes <|
      Checked.both exporter <| Checked.both api logging with
  | .error problems => .error (.invalid ⟨Text.ofString "Settings", problems⟩)
  | .ok (environment, debug, kubernetes, exporter, api, logging) =>
    .ok ⟨environment, debug, kubernetes, exporter, api, logging⟩

/-! ### The file -/

/-- What a file has at its top under a name. Of a value that is no mapping, only some kinds can be
asked, and a text or list that holds the name cannot be indexed by it. -/
def topEntry (file : Yaml.Value) (name : Text) : Except Misuse (Option Yaml.Value) :=
  let isName : Yaml.Value → Bool
    | .text t => t = name
    | _ => false
  match file with
  | .mapping entries => .ok (Yaml.Value.entry? name entries)
  | .text t =>
    if Text.containsText name t then .error (.textIndexedBy (Text.ofString "str")) else .ok none
  | .list items =>
    if items.any isName then .error (.listIndexedBy (Text.ofString "str")) else .ok none
  | .set items =>
    if items.any isName then .error (.notIndexable file.kindName) else .ok none
  | .bytes _ => .error .octetsSearched
  | v => .error (.notSearchable v.kindName)

def fileSection (file : Yaml.Value) (s : Section α) : Except Misuse Given :=
  match file with
  | .mapping entries =>
    match Yaml.Value.entry? s.name entries with
    | none => .ok []
    | some (.mapping entries) =>
      entries.foldlM (fun given (key, v) => match key with
        | .text name => .ok (write name v.scalar given)
        | _ => .error .namesNotText) []
    | some v => .error (.notMapping (Text.ofString "config.settings." ++ s.record) v.kindName)
  | v => .error (.noMember v.kindName (Text.ofString "get"))

def madeSection (file : Yaml.Value) (s : Section α) : Except Fault α :=
  match fileSection file s with
  | .error m => .error (.misuse m)
  | .ok given => s.build given

/-- The settings that a file gives, which may be missing. -/
def ofFile (default : Settings) (env : Environment) (variableFile file : Option Text) :
    Except Fault Settings := do
  let v ← match file with
    | none => .ok .null
    | some t => (Yaml.load (expand env (Text.unifyLineEnds t))).mapError .yaml
  let v := if v.isTruthy then v else .mapping []
  let environment ← (topEntry v (Text.ofString "environment")).mapError .misuse
  let debug ← (topEntry v (Text.ofString "debug")).mapError .misuse
  let sections := sections default env
  let kubernetes ← madeSection v sections.kubernetes
  let exporter ← madeSection v sections.exporter
  let api ← madeSection v sections.api
  let logging ← madeSection v sections.logging
  assemble default env variableFile
    ⟨environment.map (·.scalar), debug.map (·.scalar), some kubernetes, some exporter, some api,
      some logging⟩

def ofEnvironment (default : Settings) (env : Environment) (variableFile : Option Text) :
    Except Fault Settings :=
  assemble default env variableFile Made.nothing

/-- The defaults and the settings at the start of the program. `env` is the environment as it is once
the variables of a file beside the program, if there is one, have been put into it. -/
def atStart (env : Environment) (variableFile : Option Text) : Except Fault (Settings × Settings) :=
  match defaults env with
  | .error fault => .error fault
  | .ok default => (ofEnvironment default env variableFile).map (default, ·)

end ControlPlaneMetrics.Settings
