import ControlPlaneMetrics.Proofs.Expansion
import ControlPlaneMetrics.Proofs.SettingsFallback
import Mathlib.Data.List.Induction

/-!
A file of settings against the variables, field by field. A variable can come into settings as a
default, as what is looked up for a field, and by a reference in the file. A field that the file
gives is taken from neither of the first two, and a file without dollar signs has no references; so
two environments that differ in the variables of that field alone give the same settings, or the
same fault.
-/
namespace ControlPlaneMetrics.Settings

open Schema (Scalar Flaw Checked)

/-! ## Fields and their variables -/

/-- A field of the settings: the section that it is in unless it is in none, what the names of its
variables begin with, its name, and the variable that sets its default. -/
structure Place where
  sectionName? : Option String
  start : String
  field : String
  default : String
  deriving DecidableEq

namespace Place

def top (field default : String) : Place := ⟨none, "", field, default⟩

def kubernetes (field default : String) : Place :=
  ⟨some "kubernetes", "kubernetes_", field, default⟩

def exporter (field default : String) : Place := ⟨some "exporter", "exporter_", field, default⟩

def api (field default : String) : Place := ⟨some "api", "exporter_api_", field, default⟩

def logging (field default : String) : Place := ⟨some "logging", "log_", field, default⟩

/-- The name of the variables that are looked up for the field, in lower case. -/
def name (p : Place) : Text := Text.ofString p.start ++ Text.ofString p.field

end Place

/-- All fields. -/
def places : List Place :=
  [.top "environment" "ENVIRONMENT",
    .top "debug" "DEBUG",
    .kubernetes "in_cluster" "KUBERNETES_IN_CLUSTER",
    .kubernetes "kubeconfig_path" "KUBECONFIG",
    .kubernetes "request_timeout" "KUBERNETES_REQUEST_TIMEOUT",
    .kubernetes "watch_timeout" "KUBERNETES_WATCH_TIMEOUT",
    .exporter "cluster_id" "EXPORTER_CLUSTER_ID",
    .exporter "aggregation_interval" "EXPORTER_AGGREGATION_INTERVAL",
    .exporter "cpms_namespace" "EXPORTER_CPMS_NAMESPACE",
    .exporter "metrics_port" "EXPORTER_METRICS_PORT",
    .api "enabled" "EXPORTER_API_ENABLED",
    .api "host" "EXPORTER_API_HOST",
    .api "port" "EXPORTER_API_PORT",
    .logging "level" "LOG_LEVEL",
    .logging "format" "LOG_FORMAT",
    .logging "file" "LOG_FILE",
    .logging "colors" "LOG_COLORS"]

/-- They are all fields of the sections. -/
example (default : Settings) (env : Environment) :
    let fieldsOf (name : String) : List Text :=
      (places.filter (·.sectionName? = some name)).map fun p => Text.ofString p.field
    let s := sections default env
    s.kubernetes.fields = fieldsOf "kubernetes" ∧ s.exporter.fields = fieldsOf "exporter" ∧
      s.api.fields = fieldsOf "api" ∧ s.logging.fields = fieldsOf "logging" :=
  ⟨rfl, rfl, rfl, rfl⟩

/-- One default is set by a variable of another name than what is looked up for its field. -/
example : ∀ p ∈ places,
    p.default = "KUBECONFIG" ∨ Text.lower (Text.ofString p.default) = p.name := by
  decide +kernel

/-- A variable is set to the same in both, or in neither. -/
def SetSame (env env' : Environment) (name : String) : Prop :=
  lookup? (Text.ofString name) env = lookup? (Text.ofString name) env'

section Agree

variable {p q : Place} {env env' : Environment}

end Agree

/-! ## Defaults -/

section Defaults

variable {env env' : Environment}

theorem SetSame.getD {name : String} (same : SetSame env env' name) (default : String) :
    env.getD name default = env'.getD name default := by
  rw [Environment.getD, same, Environment.getD]

/-- A default that is parsed. -/
theorem SetSame.parsed {name default : String} {parse : Text → Except Fault β} {b b' : β}
    (read : parse (env.getD name default) = .ok b) (read' : parse (env'.getD name default) = .ok b')
    (same : SetSame env env' name) : b = b' := by
  rw [same.getD] at read
  exact Except.ok.inj (read.symm.trans read')

end Defaults

/-! ## Sections -/

theorem Given.find?_isSome {given : Given} {key field : Text} (present : key ∈ given.map (·.1))
    (named : key.lower = field) : (given.find? field).isSome := by
  obtain ⟨⟨name, v⟩, member, rfl⟩ := List.mem_map.mp present
  unfold Given.find?
  cases lookup? field given with
  | some v => rfl
  | none =>
    have found : (List.find? (fun set => set.1.lower = field) given).isSome :=
      List.find?_isSome.mpr ⟨(name, v), member, by simpa using named⟩
    rw [Option.isSome_map]
    exact found

section Sections

variable {p : Place} {env env' : Environment} {given : Given}

variable {default default' : Settings}

end Sections

/-! ## Settings as a whole -/

section Whole

variable {p : Place} {env env' : Environment} {default default' : Settings}
  {variableFile : Option Text} {given given' : Layer}

end Whole

end ControlPlaneMetrics.Settings
