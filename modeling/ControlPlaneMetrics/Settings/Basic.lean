import ControlPlaneMetrics.Resource.Basic

/-!
The settings of the exporter in their sections, and the two values that describe them:
all of them, and those that the status endpoint reports.
-/
namespace ControlPlaneMetrics

namespace Settings

structure Kubernetes where
  inCluster : Bool
  kubeconfigPath : Option Text
  requestTimeout : Int
  watchTimeout : Int

structure Export where
  clusterId : Option Text
  interval : Binary64
  ns : Text
  metricsPort : Int

structure Endpoint where
  enabled : Bool
  host : Text
  port : Int

structure Logging where
  level : Text
  format : Text
  file : Option Text
  colors : Bool

end Settings

structure Settings where
  environment : Text
  debug : Bool
  kubernetes : Settings.Kubernetes
  exporter : Settings.Export
  api : Settings.Endpoint
  logging : Settings.Logging

namespace Settings

def membersOf (members : List (String × Value)) : Value :=
  .object (members.map fun (name, v) => (Text.ofString name, v))

def optionalText : Option Text → Value := Resource.ofOption .text

def Kubernetes.describe (k : Kubernetes) : Value :=
  membersOf [("in_cluster", .bool k.inCluster),
    ("kubeconfig_path", optionalText k.kubeconfigPath),
    ("request_timeout", .int k.requestTimeout),
    ("watch_timeout", .int k.watchTimeout)]

def Export.describe (e : Export) : Value :=
  membersOf [("cluster_id", optionalText e.clusterId),
    ("aggregation_interval", .float e.interval),
    ("cpms_namespace", .text e.ns),
    ("metrics_port", .int e.metricsPort)]

def Endpoint.describe (a : Endpoint) : Value :=
  membersOf [("enabled", .bool a.enabled), ("host", .text a.host), ("port", .int a.port)]

def Logging.describe (l : Logging) : Value :=
  membersOf [("level", .text l.level), ("format", .text l.format),
    ("file", optionalText l.file), ("colors", .bool l.colors)]

/-- All settings. -/
def describe (s : Settings) : Value :=
  membersOf [("environment", .text s.environment),
    ("debug", .bool s.debug),
    ("kubernetes", s.kubernetes.describe),
    ("exporter", s.exporter.describe),
    ("api", s.api.describe),
    ("logging", s.logging.describe)]

/-- The settings that the status endpoint reports. -/
def report (s : Settings) : Value :=
  membersOf [("environment", .text s.environment),
    ("exporter", s.exporter.describe),
    ("kubernetes", membersOf [("in_cluster", .bool s.kubernetes.inCluster),
      ("kubeconfig_path", optionalText s.kubernetes.kubeconfigPath)]),
    ("api", s.api.describe),
    ("logging", membersOf [("level", .text s.logging.level),
      ("file", optionalText s.logging.file)])]

end Settings

end ControlPlaneMetrics
