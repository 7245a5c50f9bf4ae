import ControlPlaneMetrics.Settings.Environment

/-!
Files of variable settings: one on each line, with optional quotes around the value
and a comment behind it. Lines that cannot be read are passed over. A value can refer
to variables set earlier in the file or in the environment.
-/
namespace ControlPlaneMetrics.Settings.VariableFile

/-- White space within a line. -/
def isLineBlank (c : CodePoint) : Bool := c.isBlank && c ≠ .char '\n' && c ≠ .char '\r'

def isLineEnd (c : CodePoint) : Bool := c = .char '\n' || c = .char '\r'

def skipLineBlank (t : Text) : Text := t.dropWhile isLineBlank

def dropExport (t : Text) : Text :=
  match Text.dropStart? (Text.ofString "export") t with
  | some rest => if rest.head?.any isLineBlank then skipLineBlank rest else t
  | none => t

/-- A part at the front and the rest, or the text from where reading stopped. -/
abbrev Part (α : Type) := Except Text (α × Text)

/-- The name at the front: none before a comment. -/
def key? (t : Text) : Part (Option Text) :=
  let quote : CodePoint := '\''
  match t with
  | .char '#' :: _ => .ok (none, t)
  | .char '\'' :: rest =>
    match rest.takeWhile (· ≠ quote), rest.dropWhile (· ≠ quote) with
    | name, _ :: rest => if name.isEmpty then .error t else .ok (some name, rest)
    | _, [] => .error t
  | t =>
    let inName (c : CodePoint) : Bool := c ≠ .char '=' && c ≠ .char '#' && !c.isBlank
    let name := t.takeWhile inName
    if name.isEmpty then .error t else .ok (some name, t.dropWhile inName)

/-- The text up to the closing quote, and what follows it. A quote after a backslash does not close,
unless no other one follows; then the last of them does. -/
def quoted? (quote : CodePoint) : Text → Option (Text × Text)
  | [] => none
  | .char '\\' :: d :: rest =>
    let mark : CodePoint := '\\'
    if d = quote then
      match quoted? quote rest with
      | some (more, after) => some (mark :: d :: more, after)
      | none => some ([mark], rest)
    else (quoted? quote (d :: rest)).map fun (more, after) => (mark :: more, after)
  | c :: t =>
    if c = quote then some ([], t)
    else (quoted? quote t).map fun (more, after) => (c :: more, after)

def escape? : Char → Option Char
  | '\\' => some '\\'
  | '\'' => some '\''
  | '"' => some '"'
  | 'a' => some '\x07'
  | 'b' => some '\x08'
  | 'f' => some '\x0c'
  | 'n' => some '\n'
  | 'r' => some '\r'
  | 't' => some '\t'
  | 'v' => some '\x0b'
  | _ => none

/-- The text with escapes of the given letters replaced. -/
def unescape (letters : List Char) : Text → Text
  | [] => []
  | .char '\\' :: .char letter :: t =>
    match if letters.contains letter then escape? letter else none with
    | some c => .char c :: unescape letters t
    | none => .char '\\' :: unescape letters (.char letter :: t)
  | c :: t => c :: unescape letters t

/-- A value without quotes: a comment needs a blank before it. -/
def dropComment : Text → Text
  | [] => []
  | c :: t =>
    if c.isBlank ∧ (t.dropWhile CodePoint.isBlank).head? = some (.char '#') then []
    else c :: dropComment t

def trimEnd (t : Text) : Text := (t.reverse.dropWhile CodePoint.isBlank).reverse

def escapeLetters : List Char := ['\\', '\'', '"', 'a', 'b', 'f', 'n', 'r', 't', 'v']

/-- The value behind the equals sign and blanks. -/
def value? (t : Text) : Part Text :=
  match t with
  | .char '\'' :: rest =>
    match quoted? '\'' rest with
    | some (v, rest) => .ok (unescape ['\\', '\''] v, rest)
    | none => .error t
  | .char '"' :: rest =>
    match quoted? '"' rest with
    | some (v, rest) => .ok (unescape escapeLetters v, rest)
    | none => .error t
  | t =>
    let line := t.takeWhile fun c => !isLineEnd c
    .ok (trimEnd (dropComment line), t.drop line.length)

/-- The end of the line after a comment; nothing else may be left in it. -/
def endOfLine (t : Text) : Part Unit :=
  let t := match skipLineBlank t with
    | .char '#' :: rest => rest.dropWhile fun c => !isLineEnd c
    | _ => t
  match skipLineBlank t with
  | [] => .ok ((), [])
  | .char '\r' :: .char '\n' :: rest => .ok ((), rest)
  | c :: rest => if isLineEnd c then .ok ((), rest) else .error t

/-- One setting: a name without an equals sign has no value. -/
def setting? (t : Text) : Except Text (Option (Text × Option Text) × Text) := do
  let (key, t) ← key? (dropExport t)
  let (value, t) ← match skipLineBlank t with
    | .char '=' :: rest => (value? (skipLineBlank rest)).map fun (v, rest) => (some v, rest)
    | t => .ok (none, t)
  let ((), rest) ← endOfLine t
  .ok (key.map (·, value), rest)

def nextLine (t : Text) : Text := (t.dropWhile fun c => !isLineEnd c).drop 1

def settings : (fuel : Nat) → Text → List (Text × Option Text)
  | 0, _ => []
  | fuel + 1, t =>
    match t.dropWhile CodePoint.isBlank with
    | [] => []
    | t => match setting? t with
      | .ok (some found, rest) => found :: settings fuel rest
      | .ok (none, rest) => settings fuel rest
      | .error rest => settings fuel (nextLine rest)

/-- The name and the default of a reference whose brace has just been opened, and what follows its
closing brace. -/
def referenceParts? (t : Text) : Option (Text × Text × Text) :=
  let close : CodePoint := '\x7d'
  let name := t.takeWhile fun c => c ≠ close && c ≠ .char ':'
  match t.drop name.length with
  | .char ':' :: .char '-' :: rest =>
    match rest.dropWhile (· ≠ close) with
    | _ :: after => some (name, rest.takeWhile (· ≠ close), after)
    | [] => none
  | c :: rest => if c = close then some (name, [], rest) else none
  | [] => none

/-- The value with references replaced by what is known, or by their defaults. -/
def resolve (known : Text → Option Text) : (fuel : Nat) → Text → Text
  | 0, t => t
  | _, [] => []
  | fuel + 1, c :: t =>
    match c, t with
    | .char '$', .char '\x7b' :: rest =>
      match referenceParts? rest with
      | some (name, default, after) => (known name).getD default ++ resolve known fuel after
      | none => c :: resolve known fuel t
    | c, t => c :: resolve known fuel t

/-- The variables that a file sets in an environment. A name without a value is set to nothing. -/
def load (env : Environment) (t : Text) : List (Text × Option Text) :=
  (settings (t.length + 1) t).foldl (fun done (name, value) =>
    let known (n : Text) : Option Text :=
      match lookup? n done with
      | some v => some (v.getD [])
      | none => lookup? n env
    write name (value.map fun v => resolve known v.length v) done) []

end ControlPlaneMetrics.Settings.VariableFile
