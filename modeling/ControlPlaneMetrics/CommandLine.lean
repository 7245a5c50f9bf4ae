import ControlPlaneMetrics.Number.Reading
import ControlPlaneMetrics.Text.Quoted

/-!
The command line. Its words are told apart first, and an abbreviation of several flags is refused
there; then each flag takes its value, from left to right. A word that is neither a flag nor the
value of one is refused at the end, unless help was asked for before.
-/
namespace ControlPlaneMetrics.CommandLine

inductive Flag where
  | help
  | config
  | clusterId
  | interval
  | metricsPort
  | ns
  deriving DecidableEq

namespace Flag

def all : List Flag := [help, config, clusterId, interval, metricsPort, ns]

/-- The name that can be abbreviated. -/
def name : Flag → Text
  | help => Text.ofString "--help"
  | config => Text.ofString "--config"
  | clusterId => Text.ofString "--cluster-id"
  | interval => Text.ofString "--aggregation-interval"
  | metricsPort => Text.ofString "--metrics-port"
  | ns => Text.ofString "--namespace"

/-- What stands for the flag's value; help takes none. -/
def placeholder : Flag → Text
  | help => []
  | config => Text.ofString "CONFIG"
  | clusterId => Text.ofString "CLUSTER_ID"
  | interval => Text.ofString "AGGREGATION_INTERVAL"
  | metricsPort => Text.ofString "METRICS_PORT"
  | ns => Text.ofString "NAMESPACE"

def description : Flag → Text
  | help => Text.ofString "show this help message and exit"
  | config => Text.ofString "Path to configuration file"
  | clusterId => Text.ofString "Cluster identifier (skips ClusterVersion lookup)"
  | interval => Text.ofString "Seconds between metric flushes"
  | metricsPort => Text.ofString "Port serving /metrics"
  | ns => Text.ofString "Namespace watched for controlplanemachinesets"

def named? (t : Text) : Option Flag :=
  if t = Text.ofString "-h" then some help else all.find? fun flag => flag.name = t

def abbreviated (start : Text) : List Flag := all.filter fun flag => flag.name.startsWith start

def names : Flag → Text
  | help => Text.ofString "-h/--help"
  | flag => flag.name

end Flag

inductive Fault where
  | ambiguous (word : Text) (candidates : List Flag)
  | valueMissing (flag : Flag)
  | valueIgnored (flag : Flag) (value : Text)
  | notNumber (flag : Flag) (value : Text)
  | notInteger (flag : Flag) (value : Text)
  | unrecognized (words : List Text)
  deriving DecidableEq

def Flag.remark (flag : Flag) (t : Text) : Text :=
  Text.ofString "argument " ++ flag.names ++ Text.ofString ": " ++ t

def Fault.message : Fault → Text
  | ambiguous word candidates =>
    Text.ofString "ambiguous option: " ++ word ++ Text.ofString " could match " ++
      Text.joinWith (Text.ofString ", ") (candidates.map Flag.name)
  | valueMissing flag => flag.remark (Text.ofString "expected one argument")
  | valueIgnored flag value =>
    flag.remark (Text.ofString "ignored explicit argument " ++ value.quoted)
  | notNumber flag value => flag.remark (Text.ofString "invalid float value: " ++ value.quoted)
  | notInteger flag value => flag.remark (Text.ofString "invalid int value: " ++ value.quoted)
  | unrecognized words =>
    Text.ofString "unrecognized arguments: " ++ Text.joinWith [.char ' '] words

/-! ### Words -/

inductive Word where
  /-- A value, or one word too many. -/
  | plain (t : Text)
  | flag (flag : Flag) (value : Option Text)
  /-- The short flag for help with more letters behind it. -/
  | cluster (letters : Text)
  | unknown (t : Text)
  /-- The mark after which all words are plain. -/
  | separator
  deriving DecidableEq

/-- A minus sign and digits, perhaps with a point before the last of them. -/
def isNegativeNumber : Text → Bool
  | .char '-' :: t =>
    let t := if t.getLast? = some (.char '\n') then t.dropLast else t
    match t.dropWhile fun c => c.decimal?.isSome with
    | [] => !t.isEmpty
    | .char '.' :: fraction => !fraction.isEmpty && fraction.all fun c => c.decimal?.isSome
    | _ => false
  | _ => false

/-- The part before the first `=`, and what follows it, if there is one. -/
def splitValue (t : Text) : Text × Option Text :=
  match t.dropWhile (· ≠ .char '=') with
  | [] => (t, none)
  | _ :: value => (t.takeWhile (· ≠ .char '='), some value)

/-- A word that begins with a minus sign and is not a flag's name. -/
def Word.abbreviation (t : Text) : Except Fault Word :=
  let (start, value) := splitValue t
  let other : Word :=
    if isNegativeNumber t ∨ t.contains (.char ' ') then .plain t else .unknown t
  match t with
  | .char '-' :: .char '-' :: _ =>
    match Flag.abbreviated start with
    | [] => .ok other
    | [found] => .ok (.flag found value)
    | candidates => .error (.ambiguous t candidates)
  | .char '-' :: .char 'h' :: letters => .ok (.cluster letters)
  | _ => .ok other

/-- What a word is, as long as no separator came before it. -/
def Word.read (t : Text) : Except Fault Word :=
  match t with
  | .char '-' :: _ :: _ =>
    match Flag.named? t, splitValue t with
    | some found, _ => .ok (.flag found none)
    | none, (start, some value) =>
      match Flag.named? start with
      | some found => .ok (.flag found (some value))
      | none => Word.abbreviation t
    | none, (_, none) => Word.abbreviation t
  | t => .ok (.plain t)

def Word.readAll : List Text → Except Fault (List Word)
  | [] => .ok []
  | t :: rest =>
    if t = Text.ofString "--" then .ok (.separator :: rest.map .plain)
    else do
      let word ← Word.read t
      let words ← Word.readAll rest
      .ok (word :: words)

/-! ### Arguments -/

structure Arguments where
  config : Text
  clusterId : Option Text
  interval : Option Binary64
  metricsPort : Option Int
  ns : Option Text

inductive Request where
  | help
  | run (arguments : Arguments)

/-- The arguments with a flag's value; of several values the last counts. -/
def Arguments.set (a : Arguments) (flag : Flag) (value : Text) : Except Fault Arguments :=
  match flag with
  | .help => .error (.valueIgnored .help value)
  | .config => .ok { a with config := value }
  | .clusterId => .ok { a with clusterId := some value }
  | .interval =>
    match parseDouble? value with
    | some x => .ok { a with interval := some x }
    | none => .error (.notNumber flag value)
  | .metricsPort =>
    match parseInteger value with
    | .ok n => .ok { a with metricsPort := some n }
    | .error _ => .error (.notInteger flag value)
  | .ns => .ok { a with ns := some value }

/-- The letters behind the short flag for help repeat it; after the last repetition a value may be
attached, which is refused, or unknown letters, which help makes irrelevant. -/
def refusedLetters? : Text → Option Text
  | .char 'h' :: .char '=' :: value => some value
  | .char 'h' :: letters => refusedLetters? letters
  | .char '-' :: letters => some (.char '-' :: letters)
  | _ => none

/-- The words from left to right; `left` are those that nothing has taken. -/
def take (a : Arguments) (left : List Text) : List Word → Except Fault Request
  | [] => if left.isEmpty then .ok (.run a) else .error (.unrecognized left)
  | .plain t :: rest => take a (left ++ [t]) rest
  | .unknown t :: rest => take a (left ++ [t]) rest
  | .separator :: rest => take a (left ++ [Text.ofString "--"]) rest
  | .cluster letters :: _ =>
    match refusedLetters? letters with
    | some value => .error (.valueIgnored .help value)
    | none => .ok .help
  | .flag .help none :: _ => .ok .help
  | .flag flag (some value) :: rest => do
    let a ← a.set flag value
    take a left rest
  | .flag flag none :: .plain value :: rest => do
    let a ← a.set flag value
    take a left rest
  | .flag flag none :: _ => .error (.valueMissing flag)

/-- The request of a command line, whose file of settings is `config` if it names no other. -/
def parse (config : Text) (words : List Text) : Except Fault Request := do
  let words ← Word.readAll words
  take ⟨config, none, none, none, none⟩ [] words

/-! ### Usage and help -/

def program : Text := Text.ofString "cpms-exporter"

def lineWidth : Nat := 78

/-- The column at which descriptions begin. -/
def descriptionColumn : Nat := 24

def spaces (n : Nat) : Text := List.replicate n (.char ' ')

def Flag.usage : Flag → Text
  | help => Text.ofString "[-h]"
  | flag => Text.ofString "[" ++ flag.name ++ [.char ' '] ++ flag.placeholder ++ Text.ofString "]"

/-- Parts put on lines one after the other, each on the present line if it fits there. `column` is
where that line ends, and a new line begins at `indent`. -/
def fill (indent column : Nat) : List Text → Text
  | [] => []
  | part :: rest =>
    if lineWidth < column + 1 + part.length then
      .char '\n' :: spaces indent ++ part ++ fill indent (indent + part.length) rest
    else .char ' ' :: part ++ fill indent (column + 1 + part.length) rest

def usage : Text :=
  let start := Text.ofString "usage: " ++ program
  start ++ fill (start.length + 1) start.length (Flag.all.map Flag.usage) ++ [.char '\n']

/-- A flag with its value and its description, which begins on a line of its own if the flag reaches
too far. -/
def Flag.row (flag : Flag) : Text :=
  let shown : Text := Text.ofString "  " ++ match flag with
    | help => Text.ofString "-h, --help"
    | flag => flag.name ++ [.char ' '] ++ flag.placeholder
  let gap : Text := if shown.length + 2 ≤ descriptionColumn then
      spaces (descriptionColumn - shown.length)
    else .char '\n' :: spaces descriptionColumn
  shown ++ gap ++ flag.description ++ [.char '\n']

def help : Text :=
  usage ++ Text.ofString "\nControlPlaneMachineSet metrics exporter\n\noptions:\n" ++
    Flag.all.flatMap Flag.row

def Fault.report (fault : Fault) : Text :=
  usage ++ program ++ Text.ofString ": error: " ++ fault.message ++ [.char '\n']

end ControlPlaneMetrics.CommandLine
