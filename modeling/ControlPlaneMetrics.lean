import ControlPlaneMetrics.Api
import ControlPlaneMetrics.Calendar
import ControlPlaneMetrics.ClusterIdentity
import ControlPlaneMetrics.CommandLine
import ControlPlaneMetrics.Exporter
import ControlPlaneMetrics.Failure
import ControlPlaneMetrics.Health
import ControlPlaneMetrics.Json.Reader
import ControlPlaneMetrics.Json.Writer
import ControlPlaneMetrics.Log.Formatter
import ControlPlaneMetrics.Log.Line
import ControlPlaneMetrics.Log.Pattern
import ControlPlaneMetrics.Log.Record
import ControlPlaneMetrics.Log.Setup
import ControlPlaneMetrics.Main
import ControlPlaneMetrics.Metrics.Exposition
import ControlPlaneMetrics.Metrics.Gauge
import ControlPlaneMetrics.Metrics.Store
import ControlPlaneMetrics.Number.Binary64
import ControlPlaneMetrics.Number.Reading
import ControlPlaneMetrics.Number.Shortest
import ControlPlaneMetrics.Provider
import ControlPlaneMetrics.Reconcile
import ControlPlaneMetrics.Resource.Basic
import ControlPlaneMetrics.Resource.Schema
import ControlPlaneMetrics.Schema.Coercion
import ControlPlaneMetrics.Schema.Problem
import ControlPlaneMetrics.Schema.Record
import ControlPlaneMetrics.Service
import ControlPlaneMetrics.Session
import ControlPlaneMetrics.Settings.Basic
import ControlPlaneMetrics.Settings.Environment
import ControlPlaneMetrics.Settings.Load
import ControlPlaneMetrics.Settings.VariableFile
import ControlPlaneMetrics.Table
import ControlPlaneMetrics.Text.Basic
import ControlPlaneMetrics.Text.Blank
import ControlPlaneMetrics.Text.Encoding
import ControlPlaneMetrics.Text.Printable
import ControlPlaneMetrics.Text.Quoted
import ControlPlaneMetrics.Text.Word
import ControlPlaneMetrics.Value
import ControlPlaneMetrics.Watch
import ControlPlaneMetrics.Yaml.Cursor
import ControlPlaneMetrics.Yaml.Lexeme
import ControlPlaneMetrics.Yaml.Node
import ControlPlaneMetrics.Yaml.Tag
import ControlPlaneMetrics.Yaml.Token
import ControlPlaneMetrics.Yaml.Value
import ControlPlaneMetrics.Proofs.Reconciliation
import ControlPlaneMetrics.Proofs.Delivery
import ControlPlaneMetrics.Proofs.Convergence
import ControlPlaneMetrics.Proofs.Publication
import ControlPlaneMetrics.Proofs.WatchTrail
import ControlPlaneMetrics.Proofs.FlushTiming
import ControlPlaneMetrics.Proofs.SharedMetrics
import ControlPlaneMetrics.Proofs.Nesting
import ControlPlaneMetrics.Proofs.Declared
import ControlPlaneMetrics.Proofs.Verdict
import ControlPlaneMetrics.Proofs.FailureContainment
import ControlPlaneMetrics.Proofs.StreamCuts
import ControlPlaneMetrics.Proofs.FlushLoop
import ControlPlaneMetrics.Proofs.Extraction
import ControlPlaneMetrics.Proofs.Startup
import ControlPlaneMetrics.Proofs.Octets
import ControlPlaneMetrics.Proofs.Rereading
import ControlPlaneMetrics.Proofs.BlobForms
import ControlPlaneMetrics.Proofs.SettingsFallback
import ControlPlaneMetrics.Proofs.ControllerSteps
import ControlPlaneMetrics.Proofs.Renderability
import ControlPlaneMetrics.Proofs.Shutdown
import ControlPlaneMetrics.Proofs.Expansion
import ControlPlaneMetrics.Proofs.WriteOrder
import ControlPlaneMetrics.Proofs.ExpositionReading
import ControlPlaneMetrics.Proofs.LateStop
import ControlPlaneMetrics.Proofs.Shape
import ControlPlaneMetrics.Proofs.Conformity
import ControlPlaneMetrics.Proofs.Redescription
import ControlPlaneMetrics.Proofs.ExpansionOrder
import ControlPlaneMetrics.Proofs.IntervalChecks
import ControlPlaneMetrics.Proofs.Intervals
import ControlPlaneMetrics.Proofs.StreamEnd
import ControlPlaneMetrics.Proofs.FinalValues
import ControlPlaneMetrics.Proofs.UnknownMembers
import ControlPlaneMetrics.Proofs.FilePrecedence
import ControlPlaneMetrics.Proofs.DecoderRegistry
import ControlPlaneMetrics.Proofs.ListingOrder
import ControlPlaneMetrics.Proofs.MixedKeys
import ControlPlaneMetrics.Proofs.HealthView
import ControlPlaneMetrics.Proofs.Coloring
import ControlPlaneMetrics.Proofs.LogSetup
