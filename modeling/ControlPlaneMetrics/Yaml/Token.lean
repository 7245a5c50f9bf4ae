import ControlPlaneMetrics.Table
import ControlPlaneMetrics.Yaml.Lexeme

/-!
The tokens of a YAML text. Indentation opens and closes blocks, and a part that turns
out to be followed by a colon becomes a key, for which a token is put in front of it.
Until that is decided, the tokens from that part on are held back. A text that holds
no token at some place still gives the tokens that were let go before it.
-/
namespace ControlPlaneMetrics.Yaml

inductive Token where
  | directive (d : Directive)
  | documentStart
  | documentEnd
  | streamEnd
  | blockSequenceStart
  | blockMappingStart
  | blockEnd
  | flowSequenceStart
  | flowMappingStart
  | flowSequenceEnd
  | flowMappingEnd
  | blockEntry
  | flowEntry
  | key
  | value
  | reference (name : Text)
  | anchor (name : Text)
  | tag (handle : Option Text) (rest : Text)
  /-- A scalar, and whether it is plain. -/
  | scalar (plain : Bool) (t : Text)
  deriving DecidableEq

/-- A part that may be a key: where its token stands, and where it begins in the text. -/
structure PossibleKey where
  position : Nat
  /-- Whether the line must be an entry of a block, so that a colon has to follow. -/
  required : Bool
  index : Nat
  line : Nat
  column : Nat

structure Lexer where
  cursor : Cursor
  tokens : List Token
  /-- How many brackets are open; it falls below zero where too many are closed. -/
  flow : Int
  /-- The column of the innermost block, and those around it. -/
  indent : Int
  indents : List Int
  keyAllowed : Bool
  /-- The part at each depth of brackets that may be a key. -/
  keys : List (Int × PossibleKey)
  ended : Bool

namespace Lexer

def start (t : Text) : Lexer := ⟨Cursor.start t, [], 0, -1, [], true, [], false⟩

def emit (token : Token) (s : Lexer) : Lexer := { s with tokens := s.tokens ++ [token] }

def inFlow (s : Lexer) : Bool := s.flow ≠ 0

/-- Spaces, comments and line ends are passed; outside brackets a key may begin a line. -/
def skipBlank : (fuel : Nat) → Lexer → Lexer
  | 0, s => s
  | fuel + 1, s =>
    let c := s.cursor.skipSpaces.skipComment
    match c.lineBreak? with
    | some (_, c) => skipBlank fuel { s with cursor := c, keyAllowed := s.keyAllowed || !s.inFlow }
    | none => { s with cursor := c }

/-- Blocks indented further than a column are closed. -/
def closeBlocks (column : Int) (s : Lexer) : Lexer :=
  if s.inFlow then s else go s.indents s
where
  go : List Int → Lexer → Lexer
    | [], s => s
    | outer :: rest, s =>
      if s.indent > column then go rest { s.emit .blockEnd with indent := outer, indents := rest }
      else s

/-- A block at a column begins, unless the innermost one is already there. -/
def openBlock (column : Nat) (s : Lexer) : Option Lexer :=
  if s.indent < column then
    some { s with indents := s.indent :: s.indents, indent := column }
  else none

/-- Parts that can no longer be keys are forgotten: those of an earlier line, and those that began
more than 1024 places before. -/
def forgetStale (s : Lexer) : Except Fault Lexer :=
  let isStale (k : PossibleKey) : Bool :=
    k.line ≠ s.cursor.line || s.cursor.index - k.index > 1024
  if s.keys.any fun (_, k) => isStale k && k.required then .error .token
  else .ok { s with keys := s.keys.filter fun (_, k) => !isStale k }

/-- The part at the present depth is not a key. -/
def dropKey (s : Lexer) : Except Fault Lexer :=
  match lookup? s.flow s.keys with
  | none => .ok s
  | some k => if k.required then .error .token else .ok { s with keys := erase s.flow s.keys }

/-- What begins at the cursor, as a part that may be a key. -/
def possibleKey (s : Lexer) : PossibleKey where
  position := s.tokens.length
  required := !s.inFlow && s.indent = s.cursor.column
  index := s.cursor.index
  line := s.cursor.line
  column := s.cursor.column

def markKey (s : Lexer) : Except Fault Lexer :=
  if ¬s.keyAllowed then .ok s
  else s.dropKey.map fun s => { s with keys := write s.flow s.possibleKey s.keys }

def move (n : Nat) (s : Lexer) : Lexer := { s with cursor := s.cursor.advance n }

def withKeys (allowed : Bool) (s : Lexer) : Lexer := { s with keyAllowed := allowed }

def fetchStreamEnd (s : Lexer) : Except Fault Lexer :=
  (s.closeBlocks (-1)).dropKey.map fun s =>
    { (s.withKeys false).emit .streamEnd with keys := [], ended := true }

def fetchDirective (s : Lexer) : Except Fault Lexer := do
  let s ← (s.closeBlocks (-1)).dropKey
  let (d, c) ← s.cursor.directive
  .ok { (s.withKeys false).emit (.directive d) with cursor := c }

def fetchDocumentMark (token : Token) (s : Lexer) : Except Fault Lexer :=
  (s.closeBlocks (-1)).dropKey.map fun s => ((s.withKeys false).move 3).emit token

def fetchFlowStart (token : Token) (s : Lexer) : Except Fault Lexer :=
  s.markKey.map fun s => { ((s.withKeys true).move 1).emit token with flow := s.flow + 1 }

def fetchFlowEnd (token : Token) (s : Lexer) : Except Fault Lexer :=
  s.dropKey.map fun s => { ((s.withKeys false).move 1).emit token with flow := s.flow - 1 }

def fetchFlowEntry (s : Lexer) : Except Fault Lexer :=
  s.dropKey.map fun s => ((s.withKeys true).move 1).emit .flowEntry

/-- A block is opened at the cursor for what begins here, which outside brackets must be where a key
may begin. -/
def beginBlock (token : Token) (s : Lexer) : Except Fault Lexer :=
  if s.inFlow then .ok s
  else if ¬s.keyAllowed then .error .token
  else match s.openBlock s.cursor.column with
  | some s => .ok (s.emit token)
  | none => .ok s

def fetchBlockEntry (s : Lexer) : Except Fault Lexer := do
  let s ← s.beginBlock .blockSequenceStart
  let s ← s.dropKey
  .ok (((s.withKeys true).move 1).emit .blockEntry)

def fetchKey (s : Lexer) : Except Fault Lexer := do
  let s ← s.beginBlock .blockMappingStart
  let s ← s.dropKey
  .ok (((s.withKeys (!s.inFlow)).move 1).emit .key)

/-- The part at that place is a key: its token is put in front of it, and before that the token of
the block that it begins, if it does. -/
def insertKey (k : PossibleKey) (s : Lexer) : Lexer :=
  let s := { s with keys := erase s.flow s.keys, tokens := s.tokens.insertIdx k.position .key }
  if s.inFlow then s
  else match s.openBlock k.column with
  | some s => { s with tokens := s.tokens.insertIdx k.position .blockMappingStart }
  | none => s

def fetchValue (s : Lexer) : Except Fault Lexer := do
  let s ← match lookup? s.flow s.keys with
    | some k => .ok ((s.insertKey k).withKeys false)
    | none => do
      let s ← s.beginBlock .blockMappingStart
      let s ← s.dropKey
      .ok (s.withKeys (!s.inFlow))
  .ok ((s.move 1).emit .value)

/-- A part that may be a key, with what its reader makes of it. -/
def fetchPart (read : Cursor → Except Fault (Token × Cursor)) (s : Lexer) : Except Fault Lexer := do
  let s ← s.markKey
  let (token, c) ← read s.cursor
  .ok { (s.withKeys false).emit token with cursor := c }

def fetchPlain (s : Lexer) : Except Fault Lexer := do
  let s ← s.markKey
  let (t, broken, c) := s.cursor.plain s.inFlow (s.indent + 1)
  .ok { (s.withKeys broken).emit (.scalar true t) with cursor := c }

def fetchBlockScalar (folded : Bool) (s : Lexer) : Except Fault Lexer := do
  let s ← s.dropKey
  let (t, c) ← s.cursor.block folded s.indent
  .ok { (s.withKeys true).emit (.scalar false t) with cursor := c }

/-- Whether a plain scalar can begin here. -/
def beginsPlain (flow : Bool) (c : Cursor) : Bool :=
  match c.peek? with
  | none => false
  | some ch =>
    !(endsWord (some ch) || isOneOf "-?:,[]\x7b\x7d#&*!|>'\"%@\x60" ch) ||
      (!endsWord (c.peekAt? 1) && (ch = .char '-' || (!flow && isOneOf "?:" ch)))

def fetch (s : Lexer) : Except Fault Lexer :=
  let s := s.closeBlocks s.cursor.column
  let c := s.cursor
  let beforeBlank := endsWord (c.peekAt? 1)
  let quoted (double : Bool) (c : Cursor) : Except Fault (Token × Cursor) :=
    (c.quoted double).map fun (t, c) => (.scalar false t, c)
  let plainOrNone : Except Fault Lexer :=
    if beginsPlain s.inFlow c then s.fetchPlain else .error .token
  match c.peek? with
  | none => s.fetchStreamEnd
  | some (.surrogate _) => plainOrNone
  | some (.char ch) =>
    if ch = '%' ∧ c.column = 0 then s.fetchDirective
    else if ch = '-' ∧ c.column = 0 ∧ c.isSeparator '-' then s.fetchDocumentMark .documentStart
    else if ch = '.' ∧ c.column = 0 ∧ c.isSeparator '.' then s.fetchDocumentMark .documentEnd
    else match ch with
    | '[' => s.fetchFlowStart .flowSequenceStart
    | '\x7b' => s.fetchFlowStart .flowMappingStart
    | ']' => s.fetchFlowEnd .flowSequenceEnd
    | '\x7d' => s.fetchFlowEnd .flowMappingEnd
    | ',' => s.fetchFlowEntry
    | '-' => if beforeBlank then s.fetchBlockEntry else plainOrNone
    | '?' => if s.inFlow ∨ beforeBlank then s.fetchKey else plainOrNone
    | ':' => if s.inFlow ∨ beforeBlank then s.fetchValue else plainOrNone
    | '*' => s.fetchPart fun c => c.anchorName.map fun (name, c) => (.reference name, c)
    | '&' => s.fetchPart fun c => c.anchorName.map fun (name, c) => (.anchor name, c)
    | '!' => s.fetchPart fun c => c.tag.map fun (handle, rest, c) => (.tag handle rest, c)
    | '|' => if s.inFlow then plainOrNone else s.fetchBlockScalar false
    | '>' => if s.inFlow then plainOrNone else s.fetchBlockScalar true
    | '\'' => s.fetchPart (quoted false)
    | '"' => s.fetchPart (quoted true)
    | _ => plainOrNone

/-- How many tokens no part that may be a key holds back. -/
def released (s : Lexer) : Nat :=
  s.keys.foldl (fun n (_, k) => min n k.position) s.tokens.length

end Lexer

/-- The tokens of a text, as far as there are any, and why there are no more. -/
structure Tokens where
  tokens : List Token
  fault : Option Fault

namespace Tokens

/-- Token after token up to the end of the text; `known` tokens have been let go. -/
def readFrom : (fuel known : Nat) → Lexer → Tokens
  | 0, known, s => ⟨s.tokens.take known, some .token⟩
  | fuel + 1, known, s =>
    if s.ended then ⟨s.tokens, none⟩
    else match s.forgetStale with
    | .error fault => ⟨s.tokens.take known, some fault⟩
    | .ok s =>
      let known := s.released
      let fetched := do
        let s ← (s.skipBlank (s.cursor.rest.length + 1)).forgetStale
        s.fetch
      match fetched with
      | .error fault => ⟨s.tokens.take known, some fault⟩
      | .ok s => readFrom fuel known s

/-- The tokens of a text, which may begin with a byte order mark. -/
def ofText (t : Text) : Tokens :=
  let s := Lexer.start t
  let s := if s.cursor.isAt '\uFEFF' then s.move 1 else s
  readFrom (t.length + 2) 0 s

end Tokens

end ControlPlaneMetrics.Yaml
