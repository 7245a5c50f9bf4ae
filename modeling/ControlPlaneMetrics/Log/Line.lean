import ControlPlaneMetrics.Text.Basic

/-!
What the exporter says while it works: a line has a severity, the part of the
exporter that says it, and its text.
-/
namespace ControlPlaneMetrics.Log

inductive Severity where
  | debug
  | info
  | warning
  | error
  deriving DecidableEq

namespace Severity

/-- The severity as a level: more severe is higher. -/
def level : Severity → Int
  | debug => 10
  | info => 20
  | warning => 30
  | error => 40

def name : Severity → Text
  | debug => Text.ofString "DEBUG"
  | info => Text.ofString "INFO"
  | warning => Text.ofString "WARNING"
  | error => Text.ofString "ERROR"

end Severity

/-- A part of the exporter. -/
inductive Source where
  | aggregator
  | providers
  | cluster
  | logging
  | reconciler
  | watcher
  | server
  | service
  deriving DecidableEq

def Source.name : Source → Text
  | aggregator => Text.ofString "core.aggregator"
  | providers => Text.ofString "core.providers"
  | cluster => Text.ofString "core.cluster"
  | logging => Text.ofString "core.logging_config"
  | reconciler => Text.ofString "controllers.cpms"
  | watcher => Text.ofString "controllers.watcher"
  | server => Text.ofString "api.server"
  | service => Text.ofString "main"

structure Line where
  severity : Severity
  source : Source
  text : Text
  deriving DecidableEq

end ControlPlaneMetrics.Log
