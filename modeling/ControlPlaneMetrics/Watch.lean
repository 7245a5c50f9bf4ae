import ControlPlaneMetrics.Reconcile

/-!
Following the machine sets of one namespace. All are listed and reconciled once, and
then each event of a watch reconciles the object that it names. The version learned
last is where the next watch starts; when the API no longer knows it, the version is
forgotten and the next round lists again.
-/
namespace ControlPlaneMetrics

/-- What comes along a stream of a watch. The last four are changes around it: to the API, a stop
of the watch, and the stop event. -/
inductive StreamItem where
  | event (v : Value)
  | raise (failure : Failure)
  | put (ns name : Text) (answer : Answer)
  | delete (ns name : Text)
  | stopWatch
  | stopEvent

/-- A stream from its first item to its end. -/
abbrev Stream := List StreamItem

structure Watcher where
  exporter : Exporter
  watching : Bool
  /-- How often a watch was stopped. -/
  stops : Nat
  stopped : Bool
  /-- Whether a stream was asked for when none was left. -/
  exhausted : Bool

/-- The status by which the API says that it no longer knows a version. -/
def isGone (status : Value) : Bool := status.same (.int 410)

def itemName (item : Value) : Except Misuse Value := do
  let metadata ← item.pick (.text (Text.ofString "metadata"))
  metadata.pick (.text (Text.ofString "name"))

namespace Exporter

/-- Every listed object is reconciled once, in order. -/
def reconcileItems (target : Target) : List Value → Exporter → Except Failure Unit × Exporter
  | [], e => (.ok (), e)
  | item :: rest, e =>
    match itemName item with
    | .error misuse => (.error (.misuse misuse), e)
    | .ok name =>
      match e.attempt target name with
      | (.error failure, e) => (.error failure, e)
      | (.ok (), e) => reconcileItems target rest e

/-- The items of a listing; none if it has no such member. -/
def itemsOf (listing : Value) : Except Misuse (List Value) :=
  match listing with
  | .object members =>
    ((lookup? (Text.ofString "items") members).getD (.list [])).elements
  | v => .error (.noMember v.kindName (Text.ofString "get"))

/-- The version of a listing; null if it has none. -/
def versionOf (listing : Value) : Except Misuse Value := do
  let metadata ← listing.memberOrNull (Text.ofString "metadata")
  metadata.orEmpty.memberOrNull (Text.ofString "resourceVersion")

/-- All objects are listed and reconciled, and the listing's version is learned. The result is the
number of objects listed. -/
def sync (target : Target) (e : Exporter) : Except Failure Nat × Exporter :=
  let e := e.call (.list target.ns target.requestTimeout)
  let (answer, api) := e.api.list target.ns
  let e := { e with api := api }
  match answer with
  | .error failure => (.error failure, e)
  | .ok listing =>
    match itemsOf listing with
    | .error misuse => (.error (.misuse misuse), e)
    | .ok items =>
      match reconcileItems target items e with
      | (.error failure, e) => (.error failure, e)
      | (.ok (), e) =>
        match versionOf listing with
        | .error misuse => (.error (.misuse misuse), e)
        | .ok version =>
          (.ok items.length, { e with version := version }.say .info .watcher
            (Text.ofString "Synced " ++ Text.ofNat items.length ++
              Text.ofString " controlplanemachinesets in " ++ target.ns.display ++
              Text.ofString " (resourceVersion=" ++ version.display ++ Text.ofString ")"))

def expire (e : Exporter) : Exporter :=
  { e with version := .null }.say .info .watcher
    (Text.ofString "Watch resourceVersion expired, relisting")

/-- An event that reports an error; false if the version has expired. -/
def handleErrorEvent (object : Value) (e : Exporter) : Except Failure Bool × Exporter :=
  match object with
  | .object members =>
    if isGone ((lookup? (Text.ofString "code") members).getD .null) then (.ok false, e.expire)
    else
      let shown := (lookup? (Text.ofString "message") members).getD object
      (.ok true, e.say .error .watcher (Text.ofString "Watch error event: " ++ shown.display))
  | v => (.error (.misuse (.noMember v.kindName (Text.ofString "get"))), e)

/-- The kinds of events upon which the object is reconciled. -/
def reconciledKinds : List Text := ["ADDED", "MODIFIED", "DELETED"].map Text.ofString

/-- An event about an object: its version is learned if it has one, and the object is reconciled if
the event is of such a kind and names it. -/
def handleObjectEvent (target : Target) (kind object : Value) (e : Exporter) :
    Except Failure Bool × Exporter :=
  match (object.memberOrNull (Text.ofString "metadata")).map Value.orEmpty with
  | .error misuse => (.error (.misuse misuse), e)
  | .ok (.object members) =>
    let e := { e with
      version := (lookup? (Text.ofString "resourceVersion") members).getD e.version }
    let name := (lookup? (Text.ofString "name") members).getD .null
    if reconciledKinds.any (fun k => kind.same (.text k)) ∧ name.isTruthy then
      let e := e.say .debug .watcher (Text.ofString "Watch event " ++ kind.display ++
        Text.ofString " for " ++ place target.ns name)
      match e.attempt target name with
      | (.error failure, e) => (.error failure, e)
      | (.ok (), e) => (.ok true, e)
    else (.ok true, e)
  | .ok v => (.error (.misuse (.noMember v.kindName (Text.ofString "get"))), e)

/-- One event of a watch; false if the watch must start again from a listing. -/
def handleEvent (target : Target) (event : Value) (e : Exporter) :
    Except Failure Bool × Exporter :=
  match event with
  | .object members =>
    let kind := (lookup? (Text.ofString "type") members).getD .null
    let object := ((lookup? (Text.ofString "object") members).getD .null).orEmpty
    if kind.same (.text (Text.ofString "ERROR")) then handleErrorEvent object e
    else handleObjectEvent target kind object e
  | v => (.error (.misuse (.noMember v.kindName (Text.ofString "get"))), e)

end Exporter

namespace Watcher

def stopWatch (w : Watcher) : Watcher := if w.watching then { w with stops := w.stops + 1 } else w

/-- The items of a stream, until it ends, is stopped or fails. -/
def follow (target : Target) : Stream → Watcher → Except Failure Unit × Watcher
  | [], w => (.ok (), w)
  | .event v :: rest, w =>
    match w.exporter.handleEvent target v with
    | (.error failure, e) => (.error failure, { w with exporter := e })
    | (.ok true, e) => follow target rest { w with exporter := e }
    | (.ok false, e) => (.ok (), { w with exporter := e }.stopWatch)
  | .raise failure :: _, w => (.error failure, w)
  | .put ns name answer :: rest, w =>
    follow target rest { w with exporter := { w.exporter with
      api := w.exporter.api.put ns name answer } }
  | .delete ns name :: rest, w =>
    follow target rest { w with exporter := { w.exporter with
      api := w.exporter.api.delete ns name } }
  | .stopWatch :: _, w => (.ok (), w.stopWatch)
  | .stopEvent :: rest, w => follow target rest { w with stopped := true }

/-- One watch over the next of the streams, and the streams left. Where there is none, they are
exhausted, and the stop event is set. A stream that fails because the version is gone ends like any
other. -/
def watchOnce (target : Target) (streams : List Stream) (w : Watcher) :
    Except Failure Unit × Watcher × List Stream :=
  let e := w.exporter.call (.watch target.ns w.exporter.version target.watchTimeout)
  let w := { w with exporter := e, watching := true }
  let closed (w : Watcher) : Watcher := { w with watching := false }
  match streams with
  | [] => (.ok (), { w with watching := false, stopped := true, exhausted := true }, [])
  | stream :: rest =>
    match follow target stream w with
    | (.ok (), w) => (.ok (), closed w, rest)
    | (.error (.api status reason), w) =>
      if isGone status then (.ok (), closed { w with exporter := w.exporter.expire }, rest)
      else (.error (.api status reason), closed w, rest)
    | (.error failure, w) => (.error failure, closed w, rest)

def learn (target : Target) (w : Watcher) : Except Failure Unit × Watcher :=
  match w.exporter.version with
  | .null =>
    match w.exporter.sync target with
    | (.ok _, e) => (.ok (), { w with exporter := e })
    | (.error failure, e) => (.error failure, { w with exporter := e })
  | _ => (.ok (), w)

/-- Rounds of listing where needed and watching, until the stop event is set at the beginning of a
round. Each round uses up a stream, or finds none and sets the event. -/
def rounds (target : Target) : List Stream → Watcher → Except Failure Unit × Watcher × List Stream
  | streams, w =>
    if w.stopped then (.ok (), w, streams)
    else match learn target w with
      | (.error failure, w) => (.error failure, w, streams)
      | (.ok (), w) =>
        match streams with
        | [] =>
          match watchOnce target [] w with
          | (outcome, w, _) => (outcome, w, [])
        | stream :: rest =>
          match watchOnce target [stream] w with
          | (.error failure, w, _) => (.error failure, w, rest)
          | (.ok (), w, _) => rounds target rest w

def run (target : Target) (streams : List Stream) (w : Watcher) :
    Except Failure Unit × Watcher × List Stream :=
  let say (w : Watcher) (t : Text) : Watcher :=
    { w with exporter := w.exporter.say .info .watcher t }
  let started := say w (Text.ofString "Starting controlplanemachineset controller in namespace " ++
    target.ns.display)
  match rounds target streams started with
  | (.ok (), w, left) =>
    (.ok (), say w (Text.ofString "Controlplanemachineset controller stopped"), left)
  | failed => failed

end Watcher

end ControlPlaneMetrics
