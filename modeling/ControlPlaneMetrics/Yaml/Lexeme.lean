import ControlPlaneMetrics.Text.Encoding
import ControlPlaneMetrics.Yaml.Cursor

/-!
The parts of a YAML text that carry content: scalars in their five styles, names of
anchors, tags and directives. Each reader starts at the first mark of its part and
gives the content and the cursor behind it.
-/
namespace ControlPlaneMetrics.Yaml

inductive Directive where
  | version (major : Nat)
  | tag (handle stem : Text)
  | other
  deriving DecidableEq

namespace Cursor

/-! ### Quoted scalars -/

/-- What a backslash and this letter stand for, apart from numeric escapes and escaped line ends. -/
def simpleEscape? : Char → Option Char
  | '0' => some '\x00'
  | 'a' => some '\x07'
  | 'b' => some '\x08'
  | 't' => some '\t'
  | '\t' => some '\t'
  | 'n' => some '\n'
  | 'v' => some '\x0b'
  | 'f' => some '\x0c'
  | 'r' => some '\r'
  | 'e' => some '\x1b'
  | ' ' => some ' '
  | '"' => some '"'
  | '\\' => some '\\'
  | '/' => some '/'
  | 'N' => some '\x85'
  | '_' => some '\xa0'
  | 'L' => some '\u2028'
  | 'P' => some '\u2029'
  | _ => none

/-- How many hexadecimal digits follow this letter of a numeric escape. -/
def escapeWidth? : Char → Option Nat
  | 'x' => some 2
  | 'u' => some 4
  | 'U' => some 8
  | _ => none

def numericEscape (width : Nat) (c : Cursor) : Except Fault (CodePoint × Cursor) :=
  let digits := (c.rest.take width).filterMap CodePoint.hexDigit?
  if digits.length < width then .error .token
  else
    let n := digitsValue 16 digits
    match CodePoint.ofNat? n with
    | some ch => .ok (ch, c.advance width)
    | none => .error (if n < 0x80000000 then .codePointRange else .codePointTooLarge)

/-- Blank lines within a quoted scalar, as the line ends that they count for. -/
def quotedBreaks : (fuel : Nat) → Cursor → Except Fault (Text × Cursor)
  | 0, c => .ok ([], c)
  | fuel + 1, c =>
    if c.isDocumentSeparator then .error .token
    else
      let c := c.skip (isOneOf " \t")
      match c.lineBreak? with
      | some (br, c) => (quotedBreaks fuel c).map fun (breaks, c) => (br :: breaks, c)
      | none => .ok ([], c)

/-- A line end in a scalar that is folded: it counts as a space, unless blank lines follow. -/
def fold (br : CodePoint) (breaks : Text) : Text :=
  (if br ≠ .char '\n' then [br] else if breaks.isEmpty then [.char ' '] else []) ++ breaks

/-- White space within a quoted scalar. -/
def quotedSpaces (c : Cursor) : Except Fault (Text × Cursor) :=
  let (spaces, c) := c.span (isOneOf " \t")
  if c.rest.isEmpty then .error .token
  else match c.lineBreak? with
  | none => .ok (spaces, c)
  | some (br, c) =>
    (quotedBreaks (c.rest.length + 1) c).map fun (breaks, c) => (fold br breaks, c)

def escape (c : Cursor) : Except Fault (Text × Cursor) :=
  match c.peek? with
  | some (.char letter) =>
    match simpleEscape? letter, escapeWidth? letter, c.lineBreak? with
    | some ch, _, _ => .ok ([.char ch], c.next)
    | _, some width, _ => (numericEscape width c.next).map fun (ch, c) => ([ch], c)
    | _, _, some (_, c) => quotedBreaks (c.rest.length + 1) c
    | _, _, _ => .error .token
  | _ => .error .token

/-- A part of a quoted scalar without white space. -/
def quotedPart (double : Bool) : (fuel : Nat) → Cursor → Except Fault (Text × Cursor)
  | 0, c => .ok ([], c)
  | fuel + 1, c =>
    let (literal, c) := c.span fun ch => !(isOneOf "'\"\\ \t" ch || isBreak ch)
    let goOn (t : Text) (c : Cursor) : Except Fault (Text × Cursor) :=
      (quotedPart double fuel c).map fun (more, c) => (literal ++ t ++ more, c)
    match double, c.rest with
    | false, .char '\'' :: .char '\'' :: _ => goOn [.char '\''] (c.advance 2)
    | true, .char '\'' :: _ => goOn [.char '\''] c.next
    | false, .char '"' :: _ => goOn [.char '"'] c.next
    | false, .char '\\' :: _ => goOn [.char '\\'] c.next
    | true, .char '\\' :: _ =>
      match c.next.escape with
      | .error fault => .error fault
      | .ok (t, c) => goOn t c
    | _, _ => .ok (literal, c)

/-- White space and parts in turn, up to the closing quote. -/
def quotedRest (double : Bool) : (fuel : Nat) → Cursor → Except Fault (Text × Cursor)
  | 0, _ => .error .token
  | fuel + 1, c =>
    if c.isAt (if double then '"' else '\'') then .ok ([], c.next)
    else do
      let (spaces, c) ← c.quotedSpaces
      let (part, c) ← c.quotedPart double (c.rest.length + 1)
      let (more, c) ← quotedRest double fuel c
      .ok (spaces ++ part ++ more, c)

def quoted (double : Bool) (c : Cursor) : Except Fault (Text × Cursor) := do
  let c := c.next
  let (part, c) ← c.quotedPart double (c.rest.length + 1)
  let (more, c) ← c.quotedRest double (c.rest.length + 2)
  .ok (part ++ more, c)

/-! ### Plain scalars -/

/-- The part of a plain scalar up to white space or a mark. -/
def plainPart (flow : Bool) : Text → Text
  | [] => []
  | ch :: rest =>
    let next := rest.head?
    if endsWord (some ch) then []
    else if ch = .char ':' ∧
        (endsWord next ∨ (flow ∧ next.any (isOneOf ",[]\x7b\x7d"))) then []
    else if flow ∧ isOneOf ",?[]\x7b\x7d" ch then []
    else ch :: plainPart flow rest

/-- Spaces and line ends after the first line end of the white space in a plain scalar; none if a
line that separates documents is met. -/
def plainBreaks : (fuel : Nat) → Cursor → Option Text × Cursor
  | 0, c => (some [], c)
  | fuel + 1, c =>
    let c := c.skipSpaces
    match c.lineBreak? with
    | none => (some [], c)
    | some (br, c) =>
      if c.isDocumentSeparator then (none, c)
      else
        let (breaks?, c) := plainBreaks fuel c
        (breaks?.map (br :: ·), c)

/-- White space after a part of a plain scalar, and whether it holds a line end. It is empty if the
scalar ends before it. -/
def plainSpaces (c : Cursor) : Text × Cursor × Bool :=
  let (spaces, c) := c.span (· = .char ' ')
  match c.lineBreak? with
  | none => (spaces, c, false)
  | some (br, c) =>
    if c.isDocumentSeparator then ([], c, true)
    else match plainBreaks (c.rest.length + 1) c with
    | (none, c) => ([], c, true)
    | (some breaks, c) => (fold br breaks, c, true)

/-- The rest of a plain scalar after white space, whether a line end is the last thing in it, and
the cursor behind it. Lines of a scalar outside brackets are indented by `indent` or more. -/
def plainRest (flow : Bool) (indent : Int) :
    (fuel : Nat) → (spaces : Text) → (broken : Bool) → Cursor → Text × Bool × Cursor
  | 0, _, broken, c => ([], broken, c)
  | fuel + 1, spaces, broken, c =>
    let part := plainPart flow c.rest
    if c.isAt '#' ∨ part.isEmpty then ([], broken, c)
    else
      let (following, c, broken) := (c.advance part.length).plainSpaces
      if following.isEmpty ∨ c.isAt '#' ∨ (¬flow ∧ (c.column : Int) < indent) then
        (spaces ++ part, broken, c)
      else
        let (more, broken, c) := plainRest flow indent fuel following broken c
        (spaces ++ part ++ more, broken, c)

def plain (flow : Bool) (indent : Int) (c : Cursor) : Text × Bool × Cursor :=
  c.plainRest flow indent (c.rest.length + 1) [] false

/-! ### Block scalars -/

/-- What becomes of the line ends at the end of a block scalar. -/
inductive Chomp where
  | strip
  | clip
  | keep
  deriving DecidableEq

def chomp? (c : Cursor) : Option Chomp :=
  if c.isAt '+' then some .keep else if c.isAt '-' then some .strip else none

/-- An indicator of the indentation; zero is none. -/
def increment? (c : Cursor) : Except Fault (Option Nat) :=
  match c.peek?.bind CodePoint.digit? with
  | none => .ok none
  | some 0 => .error .token
  | some n => .ok (some n)

/-- The indicators after the mark of a block scalar, in either order. -/
def blockHeader (c : Cursor) : Except Fault (Chomp × Option Nat × Cursor) := do
  let past (given : Bool) (c : Cursor) : Cursor := if given then c.next else c
  let (chomp, increment, c) ← match c.chomp? with
    | some chomp => do
      let c := c.next
      let increment ← c.increment?
      .ok (chomp, increment, past increment.isSome c)
    | none => do
      let increment ← c.increment?
      let c := past increment.isSome c
      if increment.isSome then
        .ok (c.chomp?.getD .clip, increment, past c.chomp?.isSome c)
      else .ok (Chomp.clip, increment, c)
  if endsPart c.peek? then .ok (chomp, increment, c) else .error .token

/-- The cursor behind a line of which only spaces and a comment are left. -/
def restOfLine (c : Cursor) : Except Fault Cursor :=
  let c := c.skipSpaces.skipComment
  if endsLine c.peek? then .ok c.skipBreak else .error .token

/-- Blank lines before the first line of a block scalar, with the widest indentation met. -/
def blockIndentation : (fuel : Nat) → (widest : Nat) → Cursor → Text × Nat × Cursor
  | 0, widest, c => ([], widest, c)
  | fuel + 1, widest, c =>
    match c.lineBreak? with
    | some (br, c) =>
      let (breaks, widest, c) := blockIndentation fuel widest c
      (br :: breaks, widest, c)
    | none =>
      if c.isAt ' ' then blockIndentation fuel (max widest c.next.column) c.next
      else ([], widest, c)

/-- The cursor behind spaces up to a column. -/
def skipIndent (indent : Nat) (c : Cursor) : Cursor :=
  c.advance (min (c.rest.takeWhile (· = .char ' ')).length (indent - c.column))

def blockBreaks (indent : Nat) : (fuel : Nat) → Cursor → Text × Cursor
  | 0, c => ([], c)
  | fuel + 1, c =>
    let c := c.skipIndent indent
    match c.lineBreak? with
    | some (br, c) =>
      let (breaks, c) := blockBreaks indent fuel c
      (br :: breaks, c)
    | none => ([], c)

/-- The lines of a block scalar from one that begins here, with its last line end and the blank
lines after that. -/
def blockLines (folded : Bool) (indent : Nat) :
    (fuel : Nat) → Cursor → Text × Text × Text × Cursor
  | 0, c => ([], [], [], c)
  | fuel + 1, c =>
    let leads (c : Cursor) : Bool := !c.peek?.any (isOneOf " \t")
    let leading := leads c
    let (content, c) := c.span fun ch => !isBreak ch
    let (br, c) := match c.lineBreak? with
      | some (br, c) => ([br], c)
      | none => ([], c)
    let (breaks, c) := blockBreaks indent (c.rest.length + 1) c
    if c.column = indent ∧ ¬c.rest.isEmpty then
      let joint :=
        if folded ∧ br = [.char '\n'] ∧ leading ∧ leads c then
          if breaks.isEmpty then [.char ' '] else []
        else br
      let (more, last, after, c) := blockLines folded indent fuel c
      (content ++ joint ++ breaks ++ more, last, after, c)
    else (content, br, breaks, c)

/-- A block scalar in a block indented to a column, which is below zero outside any block. -/
def block (folded : Bool) (parentIndent : Int) (c : Cursor) : Except Fault (Text × Cursor) := do
  let (chomp, increment, c) ← c.next.blockHeader
  let c ← c.restOfLine
  let least := (max (parentIndent + 1) 1).toNat
  let (breaks, indent, c) := match increment with
    | none =>
      let (breaks, widest, c) := c.blockIndentation (c.rest.length + 1) 0
      (breaks, max least widest, c)
    | some n =>
      let indent := least + n - 1
      let (breaks, c) := c.blockBreaks indent (c.rest.length + 1)
      (breaks, indent, c)
  let (content, last, after, c) :=
    if c.column = indent ∧ ¬c.rest.isEmpty then
      let (content, last, after, c) := c.blockLines folded indent (c.rest.length + 1)
      (breaks ++ content, last, after, c)
    else ([], [], breaks, c)
  .ok (content ++ (match chomp with
    | .strip => []
    | .clip => last
    | .keep => last ++ after), c)

/-! ### Names, tags and directives -/

/-- The name of an anchor or of a reference to one. -/
def anchorName (c : Cursor) : Except Fault (Text × Cursor) :=
  let (name, c) := c.next.span isNameCharacter
  if name.isEmpty ∨ ¬(endsWord c.peek? ∨ c.peek?.any (isOneOf "?:,]\x7d%@\x60")) then .error .token
  else .ok (name, c)

/-- Octets written as percent signs with two digits, as far as they follow each other. -/
def uriOctets : (fuel : Nat) → Cursor → Except Fault (List UInt8 × Cursor)
  | 0, c => .ok ([], c)
  | fuel + 1, c =>
    if ¬c.isAt '%' then .ok ([], c)
    else match (c.next.rest.take 2).filterMap CodePoint.hexDigit? with
    | [a, b] =>
      (uriOctets fuel (c.advance 3)).map fun (octets, c) =>
        (UInt8.ofNat (a * 16 + b) :: octets, c)
    | _ => .error .token

def isUriCharacter (ch : CodePoint) : Bool :=
  isNameCharacter ch || isOneOf ";/?:@&=+$,.!~*'()[]" ch

/-- The part of a tag that is a resource identifier, with escaped octets read as UTF-8. -/
def uri : (fuel : Nat) → Cursor → Except Fault (Text × Cursor)
  | 0, c => .ok ([], c)
  | fuel + 1, c => do
    let (part, c) := c.span isUriCharacter
    if c.isAt '%' then
      let (octets, c) ← c.uriOctets (c.rest.length + 1)
      match Encoding.utf8? octets with
      | none => .error .token
      | some t =>
        let (more, c) ← uri fuel c
        .ok (part ++ t ++ more, c)
    else .ok (part, c)

def tagUri (c : Cursor) : Except Fault (Text × Cursor) :=
  match c.uri (c.rest.length + 1) with
  | .ok (t, after) => if after.index = c.index then .error .token else .ok (t, after)
  | .error fault => .error fault

/-- A handle of a tag: one mark alone, or a name between two. -/
def tagHandle (c : Cursor) : Except Fault (Text × Cursor) :=
  let mark : CodePoint := '!'
  if ¬c.isAt '!' then .error .token
  else if c.next.isAt ' ' then .ok ([mark], c.next)
  else
    let (name, c) := c.next.span isNameCharacter
    if c.isAt '!' then .ok (mark :: name ++ [mark], c.next) else .error .token

/-- A tag: its handle, which a tag in angle brackets lacks, and the rest. -/
def tag (c : Cursor) : Except Fault (Option Text × Text × Cursor) := do
  let mark : CodePoint := '!'
  let (handle, rest, c) ←
    if c.next.isAt '<' then do
      let (t, c) ← (c.advance 2).tagUri
      if c.isAt '>' then .ok (none, t, c.next) else .error .token
    else if endsWord c.next.peek? then .ok (none, [mark], c.next)
    else if (c.next.rest.takeWhile fun ch => !endsPart (some ch)).contains mark then do
      let (handle, c) ← c.tagHandle
      let (t, c) ← c.tagUri
      .ok (some handle, t, c)
    else do
      let (t, c) ← c.next.tagUri
      .ok (some [mark], t, c)
  if endsPart c.peek? then .ok (handle, rest, c) else .error .token

def directiveNumber (c : Cursor) : Except Fault (Nat × Cursor) :=
  let (digits, c) := c.span CodePoint.isDigit
  if digits.isEmpty then .error .token
  else .ok (digitsValue 10 (digits.filterMap CodePoint.digit?), c)

def directiveContent (name : Text) (c : Cursor) : Except Fault (Directive × Cursor) :=
  if name = Text.ofString "YAML" then do
    let (major, c) ← c.skipSpaces.directiveNumber
    if ¬c.isAt '.' then .error .token
    else
      let (_, c) ← c.next.directiveNumber
      if endsPart c.peek? then .ok (.version major, c) else .error .token
  else if name = Text.ofString "TAG" then do
    let (handle, c) ← c.skipSpaces.tagHandle
    if ¬c.isAt ' ' then .error .token
    else
      let (stem, c) ← c.skipSpaces.tagUri
      if endsPart c.peek? then .ok (.tag handle stem, c) else .error .token
  else .ok (.other, c.skip fun ch => !isBreak ch)

def directive (c : Cursor) : Except Fault (Directive × Cursor) := do
  let (name, c) := c.next.span isNameCharacter
  if name.isEmpty ∨ ¬endsPart c.peek? then .error .token
  else
    let (d, c) ← c.directiveContent name
    let c ← c.restOfLine
    .ok (d, c)

end Cursor

end ControlPlaneMetrics.Yaml
