import ControlPlaneMetrics.Service
import Std.Time.DateTime.Timestamp

/-!
The program. It reads its environment, the file of variables and the file of settings, and hands
all else to the service. No connection to a cluster comes with it, so that credentials are never
found; what a service does under a cluster is what `Service` says of any `Surroundings`.
-/
namespace ControlPlaneMetrics.Program

/-- What a file's octets spell in UTF-8. -/
def textOf (octets : List UInt8) : Except FileFault Text :=
  (Encoding.utf8From 0 [] octets).mapError .notText

def readFile? (path : String) : IO (Option (Except FileFault Text)) := do
  try
    let octets ← IO.FS.readBinFile path
    return some (textOf octets.toList)
  catch
    | .noFileOrDirectory _ _ _ => return none
    | refusal => return some (.error (.refused (Text.ofString refusal.toString)))

def readText? (path : String) : IO (Option Text) := do
  return (← readFile? path).bind Except.toOption

/-- The variables that the program was started with, as the system lists them: each is ended by a
zero. -/
def environment : IO Settings.Environment := do
  let listing := (← readText? "/proc/self/environ").getD []
  let settings := (Text.splitOnMark (.char '\x00') listing).filterMap fun entry =>
    match CommandLine.splitValue entry with
    | (name, some value) => some (name, value)
    | (_, none) => none
  return Settings.Environment.ofList settings

def noConnection : Failure :=
  .foreign .credentials (Text.ofString "NoConnection")
    (Text.ofString "no connection to a cluster is available")

def toString (t : Text) : String := String.ofList t.scalars

/-- The path that the command line, or else the environment, gives for the file of settings. -/
def configPath (env : Settings.Environment) (words : List Text) : Text :=
  match CommandLine.parse (defaultConfig env) words with
  | .ok (.run a) => a.config
  | _ => []

/-- Without a log file; the settings have yet to name it. -/
def surroundings (words : List Text) : IO Surroundings := do
  let env ← environment
  let path := configPath env words
  let content ← readFile? (toString path)
  return {
    environment := env
    variableFile := ← readText? ".env"
    file := fun asked => if asked = path then content else none
    unopened := fun _ => none
    terminal := ← (← IO.getStdout).isTty
    api := Api.empty
    streams := []
    credentials := some noConnection
    listening := none
    ending := .stop }

def parentOf (path : Text) : Text :=
  let slash : CodePoint := '/'
  (path.reverse.dropWhile (· ≠ slash)).reverse

/-- The log file is opened to append to it; why that fails, if it does. -/
def openLog (path : Text) : IO (Option FileFault) := do
  try
    unless (parentOf path).isEmpty do
      IO.FS.createDirAll (toString (parentOf path))
    let _ ← IO.FS.Handle.mk (toString path) .append
    return none
  catch refusal => return some (.refused (Text.ofString refusal.toString))

/-- With the log file that the settings name, if they can be loaded and name one. -/
def withLogFile (default : Settings) (w : Surroundings) (words : List Text) : IO Surroundings := do
  match Settings.load default w (configPath w.environment words) with
  | .error _ => return w
  | .ok settings => match settings.logging.file with
    | some (c :: path) =>
      let fault ← openLog (c :: path)
      return { w with unopened := fun _ => fault }
    | _ => return w

/-- The lines of a service go where its handlers send them. -/
def writeLines (s : Service) : IO Unit := do
  let now ← Std.Time.Timestamp.now
  let logging := s.written (.int now.toSecondsSinceUnixEpoch.val)
  IO.print (toString logging.console)
  for (path, content) in logging.files do
    let file ← IO.FS.Handle.mk (toString path) .append
    file.putStr (toString content)

/-- One line for each problem of the settings. -/
def problemLines (report : Schema.Report) : Text :=
  report.problems.flatMap fun problem =>
    .char '\n' :: Text.joinWith [.char '.'] problem.location ++ Text.ofString ": " ++
      problem.flaw.message

def writeTrouble (trouble : Trouble) : IO UInt32 := do
  let words := (trouble.message? problemLines).getD (Text.ofString "the file of settings is no YAML")
  IO.eprintln (toString words)
  return 1

end ControlPlaneMetrics.Program

open ControlPlaneMetrics

def main (arguments : List String) : IO UInt32 := do
  let words := arguments.map Text.ofString
  let w ← Program.surroundings words
  match Settings.atStart w.environment w.variableFile with
  | .error fault => Program.writeTrouble (.settings fault)
  | .ok (default, _) =>
    let w ← Program.withLogFile default w words
    let (outcome, service?) := Program.run default ⟨30, [], 0, [], []⟩ w words
    IO.print (Program.toString outcome.output)
    service?.forM Program.writeLines
    IO.eprint (Program.toString (outcome.errors Program.problemLines))
    match outcome with
    | .escaped trouble => Program.writeTrouble trouble
    | outcome => return (outcome.status?.getD 1).toUInt32
