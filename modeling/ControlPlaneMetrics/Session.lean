import ControlPlaneMetrics.ClusterIdentity
import ControlPlaneMetrics.Health
import ControlPlaneMetrics.Metrics.Exposition
import ControlPlaneMetrics.Watch

/-!
A session: an exporter under a cluster's API, moved by one step after the other. Every
operation of the exporter is a step, and so is every change around it. A step gives a
reply or a failure, and a state in either case.
-/
namespace ControlPlaneMetrics

/-- What a new exporter is made for. -/
structure Setting where
  interval : Value
  target : Target
  config : Value

inductive Flushing where
  | never
  | running
  | stopped
  deriving DecidableEq

structure Session where
  setting : Setting
  flushing : Flushing
  exporter : Exporter
  /-- A copy of the store, kept by whoever asked for it. -/
  held : Metrics.Store

inductive Step where
  | renew (setting : Setting)
  | put (ns name : Text) (answer : Answer)
  | delete (ns name : Text)
  | scriptListing (answer : Answer)
  | scriptCluster (answer : Answer)
  | discover (timeout : Value)
  | reconcile (ns name : Value)
  | set (key : Metrics.Key) (enabled : Value)
  | aggregate
  | newStore
  | store
  | samples
  | sample (clusterId instanceType : Value)
  | exposition
  | hold
  | held
  | writeHeld
  | run
  | stop
  | isRunning
  | loop (ticks : List (List Step))
  | sync
  | event (v : Value)
  | setVersion (v : Value)
  | stopController
  | watchOnce (streams : List Stream) (stopped : Bool)
  | runController (streams : List Stream) (stopped : Bool)
  /-- A request to the health endpoints, at a time. -/
  | request (method path now : Text)

structure Watched where
  stops : Nat
  stopped : Bool
  watching : Bool
  unused : Nat
  failure : Option Failure

inductive Reply where
  | done
  | truth (b : Bool)
  | count (n : Nat)
  | value (v : Value)
  | reconciled (result : ReconcileResult)
  | entries (store : Metrics.Store)
  | series (gauge : Metrics.Gauge)
  | sample (value : Option Binary64)
  | text (t : Text)
  /-- The interval of each wait, and the series after each tick. -/
  | ticked (waits : List Value) (after : List Metrics.Gauge)
  | watched (outcome : Watched)
  | response (r : Health.Response)

namespace Session

/-- A session whose exporter has just been made; none if the interval is refused. -/
def create (setting : Setting) (api : Api) : Except Failure Session :=
  match checkInterval setting.interval with
  | .error failure => .error failure
  | .ok () => .ok ⟨setting, .never, Exporter.initial api, []⟩

def renew (setting : Setting) (s : Session) : Except Failure Reply × Session :=
  match checkInterval setting.interval with
  | .error failure => (.error failure, s)
  | .ok () =>
    (.ok .done, { s with
      setting := setting, flushing := .never
      exporter := { s.exporter with metrics := ⟨[], []⟩, version := .null } })

def view (s : Session) : Health.View where
  running := s.flushing = .running
  clusterId := s.setting.target.clusterId
  interval := s.setting.interval
  tracked := s.exporter.metrics.store.length
  config := s.setting.config

def withExporter (s : Session) (e : Exporter) : Session := { s with exporter := e }

def withApi (s : Session) (api : Api) : Session := s.withExporter { s.exporter with api := api }

/-- The reply of an operation of the exporter, and the session after it. -/
def replied (s : Session) (reply : α → Reply) (outcome : Except Failure α × Exporter) :
    Except Failure Reply × Session :=
  (outcome.1.map reply, s.withExporter outcome.2)

/-- Flushing by the clock begins. It counts as running until it is stopped. -/
def startFlushing (s : Session) : Session :=
  let e := s.exporter
  let e := if s.flushing = .running then
      e.say .warning .aggregator
        (Text.ofString "MetricsAggregator.run() called while a flush loop is already running")
    else e
  { s with
    flushing := .running
    exporter := e.flushingStarted s.setting.interval s.setting.target.clusterId }

/-- Flushing by the clock ends, silently if the clock could not wait for so long. -/
def stopFlushing (s : Session) : Except Failure Reply × Session :=
  match s.flushing with
  | .never => (.error (.misuse (.noMember (Text.ofString "NoneType") (Text.ofString "set"))), s)
  | .running =>
    let e := s.exporter
    (.ok (.truth true), { s with
      flushing := .stopped
      exporter := if canWait s.setting.interval then e.flushingStopped else e })
  | .stopped => (.ok (.truth true), s)

/-- A run over streams, and how it ended. -/
def watch (s : Session) (stopped : Bool)
    (follow : Watcher → Except Failure Unit × Watcher × List Stream) :
    Except Failure Reply × Session :=
  let (outcome, w, left) := follow ⟨s.exporter, false, 0, stopped, false⟩
  (.ok (.watched ⟨w.stops, w.stopped, w.watching, left.length, match outcome with
    | .ok () => none
    | .error failure => some failure⟩), s.withExporter w.exporter)

mutual

def step (s : Session) : Step → Except Failure Reply × Session
  | .renew setting => s.renew setting
  | .put ns name answer => (.ok .done, s.withApi (s.exporter.api.put ns name answer))
  | .delete ns name =>
    (.ok (.truth (s.exporter.api.has ns name)), s.withApi (s.exporter.api.delete ns name))
  | .scriptListing answer =>
    (.ok .done, s.withApi { s.exporter.api with listings := s.exporter.api.listings ++ [answer] })
  | .scriptCluster answer =>
    (.ok .done, s.withApi { s.exporter.api with cluster := some answer })
  | .discover timeout => s.replied .value (s.exporter.discoverClusterId timeout)
  | .reconcile ns name => s.replied .reconciled (s.exporter.reconcile s.setting.target ns name)
  | .set key enabled =>
    match s.exporter.set key enabled with
    | .error misuse => (.error (.misuse misuse), s)
    | .ok e => (.ok .done, s.withExporter e)
  | .aggregate =>
    let (outcome, e) := s.exporter.flush
    (match outcome with
      | .ok () => .ok .done
      | .error misuse => .error (.misuse misuse), s.withExporter e)
  | .newStore => (.ok .done, s.withExporter s.exporter.renewStore)
  | .store => (.ok (.entries s.exporter.metrics.store), s)
  | .samples => (.ok (.series s.exporter.metrics.gauge), s)
  | .sample clusterId instanceType =>
    (.ok (.sample (s.exporter.metrics.gauge.sample? clusterId instanceType)), s)
  | .exposition =>
    (match Metrics.Exposition.render s.exporter.metrics.gauge with
      | .ok t => .ok (.text t)
      | .error fault => .error (.unpaired fault), s)
  | .hold => (.ok .done, { s with held := s.exporter.metrics.store })
  | .held => (.ok (.entries s.held), s)
  | .writeHeld => (.error (.misuse .readOnly), s)
  | .run => (.ok (.truth false), s.startFlushing)
  | .stop => s.stopFlushing
  | .isRunning => (.ok (.truth (s.flushing = .running)), s)
  | .loop ticks =>
    let (waits, after, s) := runTicks s.setting.interval s ticks
    (.ok (.ticked waits after), s)
  | .sync => s.replied .count (s.exporter.sync s.setting.target)
  | .event v => s.replied .truth (s.exporter.handleEvent s.setting.target v)
  | .setVersion v => (.ok .done, s.withExporter { s.exporter with version := v })
  | .stopController => (.ok .done, s)
  | .watchOnce streams stopped => s.watch stopped (Watcher.watchOnce s.setting.target streams)
  | .runController streams stopped => s.watch stopped (Watcher.run s.setting.target streams)
  | .request method path now => (.ok (.response (Health.handle s.view method path now)), s)

/-- The session after the steps, whatever they answer. -/
def runSteps (s : Session) : List Step → Session
  | [] => s
  | first :: rest => runSteps (step s first).2 rest

/-- The flushing by the clock: the steps are taken while it waits, and a flush follows each wait but
the last. The result is the interval of each wait, and the series after each flush. -/
def runTicks (interval : Value) (s : Session) :
    List (List Step) → List Value × List Metrics.Gauge × Session
  | [] => ([interval], [], s.withExporter s.exporter.flushingStopped)
  | steps :: rest =>
    let s := runSteps s steps
    let s := s.withExporter s.exporter.tick
    let (waits, after, last) := runTicks interval s rest
    (interval :: waits, s.exporter.metrics.gauge :: after, last)

end

end Session

end ControlPlaneMetrics
