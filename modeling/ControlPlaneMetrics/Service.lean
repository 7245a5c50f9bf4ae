import ControlPlaneMetrics.ClusterIdentity
import ControlPlaneMetrics.CommandLine
import ControlPlaneMetrics.Health
import ControlPlaneMetrics.Log.Setup
import ControlPlaneMetrics.Settings.Load
import ControlPlaneMetrics.Watch

/-!
The service as a program: settings are loaded and laid under the arguments of the command line,
the exporter is set up for them, and it runs until something stops it. A start that fails for a
cause that was to be expected is reported and gives the exit status one, and so does a run that
fails. What happens in several threads is put in one order here: the controller ends before the
program does.
-/
namespace ControlPlaneMetrics

/-- What stops the service when the streams are exhausted. -/
inductive Ending where
  | stop
  | signal (number : Nat)
  deriving DecidableEq

/-- What the program finds around it. -/
structure Surroundings where
  /-- The variables of the program, those that a file beside it has put there included. -/
  environment : Settings.Environment
  variableFile : Option Text
  /-- What the system gives for a path: the text of the file there, or why it gives none, or nothing
  if there is no file. -/
  file : Text → Option (Except FileFault Text)
  /-- Why a log file cannot be made or opened at a path, if that is so. -/
  unopened : Text → Option FileFault
  terminal : Bool
  api : Api
  streams : List Stream
  /-- Why credentials cannot be loaded. -/
  credentials : Option Failure
  /-- Why metrics cannot be served. -/
  listening : Option Failure
  ending : Ending

/-- What the service turns to outside. -/
inductive Opening where
  | clusterCredentials
  | userCredentials (path : Option Text)
  | metrics (port : Int)
  | health (host : Text) (port : Int)
  deriving DecidableEq

structure Service where
  settings : Settings
  logging : Log.Logging
  exporter : Exporter
  opened : List Opening
  target : Option Target
  failed : Bool

/-- Why the program ends before its time. -/
inductive Trouble where
  | settings (fault : Settings.Fault)
  | logging (fault : Log.SetupFault)
  | failure (cause : Failure)

namespace Trouble

/-- Whether a start reports the trouble, or lets it through. -/
def isReported : Trouble → Bool
  | settings fault => fault.isValueFault
  | logging fault => fault.isValueFault
  | failure cause => cause.isExpected

/-- What is said of the trouble; a file that is no YAML has words that are not kept. `below` words
what stands below the headline of a report on settings. -/
def message? (below : Schema.Report → Text) : Trouble → Option Text
  | settings fault => fault.message? below
  | logging fault => some fault.message
  | failure cause => some cause.message

end Trouble

namespace Service

def initial (settings : Settings) (logging : Log.Logging) (api : Api) : Service :=
  ⟨settings, logging, Exporter.initial api, [], none, false⟩

def say (severity : Log.Severity) (t : Text) (s : Service) : Service :=
  { s with exporter := s.exporter.say severity .service t }

def info (t : String) (s : Service) : Service := s.say .info (Text.ofString t)

def opening (o : Opening) (s : Service) : Service := { s with opened := s.opened ++ [o] }

def lines (s : Service) : List Log.Line :=
  s.exporter.lines.filter fun line => s.logging.rootLevel ≤ line.severity.level

/-- What the handlers make of the lines at a time. -/
def written (now : Value) (s : Service) : Log.Logging :=
  s.exporter.lines.foldl (fun logging line => logging.handle (line.record now))
    { s.logging with console := [], files := [] }

/-- What the health endpoints see of a service with a target. -/
def view (target : Target) (running : Bool) (s : Service) : Health.View where
  running := running
  clusterId := target.clusterId
  interval := .float s.settings.exporter.interval
  tracked := s.exporter.metrics.store.length
  config := s.settings.report

/-! ### Setting up -/

def setupOptions (l : Settings.Logging) : Log.SetupOptions where
  level := .text l.level
  file := Settings.optionalText l.file
  colors := l.colors
  pattern := .text l.format

def setUpLogging (unopened : Text → Option FileFault) (terminal : Bool) (s : Service) :
    Except Trouble Unit × Service :=
  let options := setupOptions s.settings.logging
  match s.logging.configure unopened options terminal (.int 0) with
  | (logging, some fault) => (.error (.logging fault), { s with logging := logging })
  | (logging, none) =>
    (.ok (), { s with
      logging := logging
      exporter := options.remarks.foldl (fun e (_, t) => e.say .info .logging t) s.exporter })

def placeOfCredentials : Option Text → Text
  | some (c :: path) => c :: path
  | _ => Text.ofString "default location"

def loadCredentials (failure? : Option Failure) (s : Service) : Except Trouble Unit × Service :=
  let k := s.settings.kubernetes
  let s := if k.inCluster then (s.info "Loading in-cluster config").opening .clusterCredentials
    else (s.say .info (Text.ofString "Loading kubeconfig from: " ++
      placeOfCredentials k.kubeconfigPath)).opening (.userCredentials k.kubeconfigPath)
  match failure? with
  | some failure => (.error (.failure failure), s)
  | none => (.ok (), s)

/-- The cluster's identifier: the configured one, or what the API says if that is missing or
empty. -/
def identify (s : Service) : Except Trouble Value × Service :=
  match s.settings.exporter.clusterId with
  | some (c :: id) => (.ok (.text (c :: id)), s)
  | _ =>
    match s.exporter.discoverClusterId (.int s.settings.kubernetes.requestTimeout) with
    | (.ok id, e) => (.ok id, { s with exporter := e })
    | (.error failure, e) => (.error (.failure failure), { s with exporter := e })

def targetFor (settings : Settings) (clusterId : Value) : Target where
  clusterId := clusterId
  ns := .text settings.exporter.ns
  requestTimeout := .int settings.kubernetes.requestTimeout
  watchTimeout := .int settings.kubernetes.watchTimeout

/-- The target is settled, if the interval can be accepted. -/
def aim (clusterId : Value) (s : Service) : Except Trouble Target × Service :=
  match checkInterval (.float s.settings.exporter.interval) with
  | .error failure => (.error (.failure failure), s)
  | .ok () =>
    let target := targetFor s.settings clusterId
    let s := { s with target := some target }.say .info
      (Text.ofString "CPMS Metrics Exporter initialized for cluster " ++ clusterId.display)
    let s := if s.settings.debug then
        s.say .info (Text.ofString "Debug mode enabled. Settings: " ++
          s.settings.describe.inspected)
      else s
    (.ok target, s)

def setUp (w : Surroundings) (s : Service) : Except Trouble Target × Service :=
  match s.setUpLogging w.unopened w.terminal with
  | (.error trouble, s) => (.error trouble, s)
  | (.ok (), s) =>
    match s.loadCredentials w.credentials with
    | (.error trouble, s) => (.error trouble, s)
    | (.ok (), s) =>
      match s.identify with
      | (.error trouble, s) => (.error trouble, s)
      | (.ok clusterId, s) => s.aim clusterId

/-! ### Running -/

def serveMetrics (failure? : Option Failure) (s : Service) : Except Failure Unit × Service :=
  let port := s.settings.exporter.metricsPort
  let s := (s.info "Starting CPMS Metrics Exporter...").opening (.metrics port)
  match failure? with
  | some failure => (.error failure, s)
  | none =>
    (.ok (), s.say .info (Text.ofString "Prometheus metrics server started on :" ++
      Text.ofInt port))

/-- Flushing by the clock begins, and the health endpoints are served if they are enabled. -/
def startThreads (target : Target) (s : Service) : Service :=
  let interval : Value := .float s.settings.exporter.interval
  let s := { s with exporter := s.exporter.flushingStarted interval target.clusterId }
  let endpoint := s.settings.api
  if endpoint.enabled then
    let port := Text.ofInt endpoint.port
    let s := (s.opening (.health endpoint.host endpoint.port)).say .info
      (Text.ofString "API server started on :" ++ port)
    let starting := Text.ofString "Starting API server on " ++ endpoint.host ++ .char ':' :: port
    { s with exporter := s.exporter.say .info .server starting }
  else s

def signalled (number : Nat) (s : Service) : Service :=
  s.say .info (Text.ofString "Received signal " ++ Text.ofNat number ++
    Text.ofString ", shutting down...")

/-- The controller's run to its end. A failure is reported, and stops the service; a request to exit
ends the controller only, and the service waits for whatever else stops it. -/
def runController (target : Target) (w : Surroundings) (s : Service) : Service :=
  let (outcome, watcher, _) :=
    Watcher.run target w.streams ⟨s.exporter, false, 0, false, false⟩
  let s := { s with exporter := watcher.exporter }
  match outcome with
  | .error failure =>
    if failure.isExit then s
    else { s with failed := true }.say .error
      (Text.ofString "Controller terminated: " ++ failure.message)
  | .ok () =>
    match w.ending with
    | .signal number => if watcher.exhausted then s.signalled number else s
    | .stop => s

/-- What is said when the stop event is set, and then by the thread that flushes, if it still
lives. -/
def finish (s : Service) : Service :=
  let s := s.info "CPMS Metrics Exporter stopped"
  if canWait (.float s.settings.exporter.interval) then
    { s with exporter := s.exporter.flushingStopped }
  else s

/-- The run, until the service is stopped. It fails only if metrics cannot be served. -/
def run (target : Target) (w : Surroundings) (s : Service) : Except Failure Unit × Service :=
  match s.serveMetrics w.listening with
  | (.error failure, s) => (.error failure, s)
  | (.ok (), s) => (.ok (), ((s.startThreads target).runController target w).finish)

end Service

/-! ### The program -/

/-- The settings under the arguments: a flag's value counts if it was given and, where it is a text,
is not empty. -/
def CommandLine.Arguments.onto (a : CommandLine.Arguments) (s : Settings) : Settings :=
  let given (t? : Option Text) : Option Text := t?.filter fun t => !t.isEmpty
  { s with exporter := {
      clusterId := (given a.clusterId).or s.exporter.clusterId
      interval := a.interval.getD s.exporter.interval
      ns := (given a.ns).getD s.exporter.ns
      metricsPort := a.metricsPort.getD s.exporter.metricsPort } }

/-- The settings from the file at a path if there is one, and else from the environment. -/
def Settings.load (default : Settings) (w : Surroundings) (path : Text) :
    Except Settings.Fault Settings :=
  match w.file path with
  | some (.ok t) => Settings.ofFile default w.environment w.variableFile (some t)
  | some (.error fault) => .error (.file fault)
  | none => Settings.ofEnvironment default w.environment w.variableFile

inductive Outcome where
  | helped
  | refused (fault : CommandLine.Fault)
  | notStarted (trouble : Trouble)
  | stopped (failed : Bool)
  | interrupted
  | fatal (failure : Failure)
  /-- A trouble that nothing reports. -/
  | escaped (trouble : Trouble)

namespace Outcome

def status? : Outcome → Option Nat
  | helped => some 0
  | refused _ => some 2
  | notStarted _ => some 1
  | stopped failed => some (if failed then 1 else 0)
  | interrupted => some 0
  | fatal _ => some 1
  | escaped _ => none

def output : Outcome → Text
  | helped => CommandLine.help
  | _ => []

def errors (below : Schema.Report → Text) : Outcome → Text
  | refused fault => fault.report
  | notStarted trouble =>
    Text.ofString "Failed to start exporter: " ++ (trouble.message? below).getD [] ++ [.char '\n']
  | _ => []

end Outcome

def defaultConfig (env : Settings.Environment) : Text :=
  env.getD "CONFIG_PATH" "/etc/cpms-exporter/config.yaml"

namespace Program

def failedStart (trouble : Trouble) : Outcome :=
  if trouble.isReported then .notStarted trouble else .escaped trouble

def finish (target : Target) (w : Surroundings) (s : Service) : Outcome × Service :=
  match s.run target w with
  | (.ok (), s) => (.stopped s.failed, s)
  | (.error (.foreign .interrupt _ _), s) => (.interrupted, s.info "Received keyboard interrupt")
  | (.error failure, s) =>
    if failure.isExit then (.escaped (.failure failure), s)
    else (.fatal failure, s.say .error (Text.ofString "Fatal error: " ++ failure.message))

/-- The program with arguments; the service is there if one was begun. `logging` is the state of
logging that the program finds. -/
def start (default : Settings) (logging : Log.Logging) (w : Surroundings)
    (a : CommandLine.Arguments) : Outcome × Option Service :=
  match Settings.load default w a.config with
  | .error fault => (failedStart (.settings fault), none)
  | .ok settings =>
    match (Service.initial (a.onto settings) logging w.api).setUp w with
    | (.error trouble, s) => (failedStart trouble, some s)
    | (.ok target, s) => (finish target w s).map id some

def run (default : Settings) (logging : Log.Logging) (w : Surroundings) (words : List Text) :
    Outcome × Option Service :=
  match CommandLine.parse (defaultConfig w.environment) words with
  | .error fault => (.refused fault, none)
  | .ok .help => (.helped, none)
  | .ok (.run a) => start default logging w a

/-- The service by itself, with the settings of the file at a path if one is named. No trouble is
reported, and a controller that fails shows in the service only. -/
def runAlone (default : Settings) (logging : Log.Logging) (w : Surroundings)
    (path : Option Text) : Outcome × Option Service :=
  match Settings.load default w (path.getD []) with
  | .error fault => (.escaped (.settings fault), none)
  | .ok settings =>
    match (Service.initial settings logging w.api).setUp w with
    | (.error trouble, s) => (.escaped trouble, some s)
    | (.ok target, s) =>
      match s.run target w with
      | (.error failure, s) => (.escaped (.failure failure), some s)
      | (.ok (), s) => (.stopped false, some s)

end Program

end ControlPlaneMetrics
