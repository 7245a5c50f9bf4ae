import ControlPlaneMetrics.Yaml.Tag
import ControlPlaneMetrics.Yaml.Token

/-!
The nodes of a YAML document: scalars, sequences and mappings, each with a tag.
References are replaced by the nodes that they name. A reference to a node that encloses
it stands for an empty node of the same kind.
-/
namespace ControlPlaneMetrics.Yaml

inductive Node where
  | scalar (tag t : Text)
  | sequence (tag : Text) (items : List Node)
  | mapping (tag : Text) (entries : List (Node × Node))
  deriving Inhabited

namespace Node

/-- The node where a document, a block or a bracket has nothing. -/
def empty : Node := .scalar (commonTag "null") []

structure Context where
  /-- What each handle of a tag stands for. -/
  handles : List (Text × Text)
  /-- Why the tokens end, if not because the text does. -/
  fault : Option Fault
  /-- How many collections more may be opened inside each other. -/
  room : Nat

def Context.inside (ctx : Context) : Except Fault Context :=
  match ctx.room with
  | 0 => .error .nestedTooDeep
  | room + 1 => .ok { ctx with room := room }

/-- How many collections inside each other are assumed to be read; where a reader gives up depends
on how deep the calls stand that lead to it. -/
def assumedDepth : Nat := 480

/-- The tokens left and the nodes named so far. -/
structure Reading where
  tokens : List Token
  anchors : List (Text × Node)

def peek (ctx : Context) (r : Reading) : Except Fault Token :=
  match r.tokens with
  | token :: _ => .ok token
  | [] => .error (ctx.fault.getD .grammar)

def drop (r : Reading) : Reading := { r with tokens := r.tokens.drop 1 }

structure Properties where
  anchor : Option Text
  tag : Option (Option Text × Text)

def anchor? (ctx : Context) (r : Reading) : Except Fault (Option Text × Reading) := do
  match ← peek ctx r with
  | .anchor name => .ok (some name, drop r)
  | _ => .ok (none, r)

def tag? (ctx : Context) (r : Reading) : Except Fault (Option (Option Text × Text) × Reading) := do
  match ← peek ctx r with
  | .tag handle rest => .ok (some (handle, rest), drop r)
  | _ => .ok (none, r)

def properties (ctx : Context) (r : Reading) : Except Fault (Properties × Reading) := do
  let (anchor, r) ← anchor? ctx r
  let (tag, r) ← tag? ctx r
  match anchor, tag with
  | none, some tag =>
    let (anchor, r) ← anchor? ctx r
    .ok (⟨anchor, some tag⟩, r)
  | anchor, tag => .ok (⟨anchor, tag⟩, r)

/-- The whole tag; none if there is none or it only says that the text decides nothing. -/
def Properties.resolve (p : Properties) (ctx : Context) : Except Fault (Option Text) :=
  match p.tag with
  | none => .ok none
  | some (none, rest) => .ok (some rest)
  | some (some handle, rest) =>
    match lookup? handle ctx.handles with
    | some stem => .ok (some (stem ++ rest))
    | none => .error .grammar

/-- The tag that says no more than that there is one. -/
def bareTag : Text := Text.ofString "!"

def collectionTag (given : Option Text) (name : String) : Text :=
  match given with
  | none => commonTag name
  | some t => if t = bareTag then commonTag name else t

/-- The tag of a scalar: its own, or what its text suggests if it is plain or its tag is bare. -/
def scalarTag (given : Option Text) (plain : Bool) (t : Text) : Text :=
  match given with
  | none => if plain then tagOfPlain t else commonTag "str"
  | some tag => if tag = bareTag then tagOfPlain t else tag

def name (anchor : Option Text) (node : Node) (r : Reading) : Reading :=
  match anchor with
  | none => r
  | some anchor => { r with anchors := write anchor node r.anchors }

/-- No other node may have the anchor. -/
def checkNew (anchor : Option Text) (r : Reading) : Except Fault Unit :=
  match anchor.bind (lookup? · r.anchors) with
  | some _ => .error .composition
  | none => .ok ()

mutual

/-- The node whose tokens come next. `block` nodes may be blocks, and where `indentless` ones are
allowed, entries of a sequence may follow without a block around them. -/
def read (ctx : Context) :
    (fuel : Nat) → (block indentless : Bool) → Reading → Except Fault (Node × Reading)
  | 0, _, _, _ => .error .grammar
  | fuel + 1, block, indentless, r => do
    match ← peek ctx r with
    | .reference name =>
      match lookup? name r.anchors with
      | some node => .ok (node, drop r)
      | none => .error .composition
    | _ =>
      let (p, r) ← properties ctx r
      let tag ← p.resolve ctx
      let sequence (read : Context → Reading → Except Fault (List Node × Reading)) :
          Except Fault (Node × Reading) := do
        checkNew p.anchor r
        let tag := collectionTag tag "seq"
        let (items, r) ← read (← ctx.inside) (name p.anchor (.sequence tag []) r)
        .ok (.sequence tag items, name p.anchor (.sequence tag items) r)
      let mapping (read : Context → Reading → Except Fault (List (Node × Node) × Reading)) :
          Except Fault (Node × Reading) := do
        checkNew p.anchor r
        let tag := collectionTag tag "map"
        let (entries, r) ← read (← ctx.inside) (name p.anchor (.mapping tag []) r)
        .ok (.mapping tag entries, name p.anchor (.mapping tag entries) r)
      let scalar (plain : Bool) (t : Text) (r : Reading) : Except Fault (Node × Reading) := do
        checkNew p.anchor r
        let node := Node.scalar (scalarTag tag plain t) t
        .ok (node, name p.anchor node r)
      match ← peek ctx r with
      | .blockEntry =>
        if indentless then sequence (fun ctx r => indentlessItems ctx fuel r)
        else if p.anchor.isSome ∨ tag.isSome then scalar true [] r
        else .error .grammar
      | .scalar plain t => scalar plain t (drop r)
      | .flowSequenceStart => sequence fun ctx r => flowItems ctx fuel true (drop r)
      | .flowMappingStart => mapping fun ctx r => flowEntries ctx fuel true (drop r)
      | token =>
        if block ∧ token = .blockSequenceStart then
          sequence fun ctx r => blockItems ctx fuel (drop r)
        else if block ∧ token = .blockMappingStart then
          mapping fun ctx r => blockEntries ctx fuel (drop r)
        else if p.anchor.isSome ∨ tag.isSome then scalar true [] r
        else .error .grammar

/-- The node that comes next, or the empty one before a token that ends its place. -/
def readUnless (ctx : Context) : (fuel : Nat) → (block indentless : Bool) → (ends : List Token) →
    Reading → Except Fault (Node × Reading)
  | 0, _, _, _, _ => .error .grammar
  | fuel + 1, block, indentless, ends, r => do
    let token ← peek ctx r
    if ends.contains token then .ok (empty, r) else read ctx fuel block indentless r

def blockItems (ctx : Context) : (fuel : Nat) → Reading → Except Fault (List Node × Reading)
  | 0, _ => .error .grammar
  | fuel + 1, r => do
    match ← peek ctx r with
    | .blockEntry =>
      let (item, r) ← readUnless ctx fuel true false [.blockEntry, .blockEnd] (drop r)
      let (items, r) ← blockItems ctx fuel r
      .ok (item :: items, r)
    | .blockEnd => .ok ([], drop r)
    | _ => .error .grammar

def indentlessItems (ctx : Context) : (fuel : Nat) → Reading → Except Fault (List Node × Reading)
  | 0, _ => .error .grammar
  | fuel + 1, r => do
    match ← peek ctx r with
    | .blockEntry =>
      let (item, r) ← readUnless ctx fuel true false [.blockEntry, .key, .value, .blockEnd] (drop r)
      let (items, r) ← indentlessItems ctx fuel r
      .ok (item :: items, r)
    | _ => .ok ([], r)

def blockEntries (ctx : Context) :
    (fuel : Nat) → Reading → Except Fault (List (Node × Node) × Reading)
  | 0, _ => .error .grammar
  | fuel + 1, r => do
    match ← peek ctx r with
    | .key =>
      let (key, r) ← readUnless ctx fuel true true [.key, .value, .blockEnd] (drop r)
      let (value, r) ← match ← peek ctx r with
        | .value => readUnless ctx fuel true true [.key, .value, .blockEnd] (drop r)
        | _ => .ok (empty, r)
      let (entries, r) ← blockEntries ctx fuel r
      .ok ((key, value) :: entries, r)
    | .blockEnd => .ok ([], drop r)
    | _ => .error .grammar

/-- The items of a sequence in brackets; an item with a key is a mapping of its own. -/
def flowItems (ctx : Context) :
    (fuel : Nat) → (first : Bool) → Reading → Except Fault (List Node × Reading)
  | 0, _, _ => .error .grammar
  | fuel + 1, first, r => do
    match ← peek ctx r with
    | .flowSequenceEnd => .ok ([], drop r)
    | token =>
      if ¬first ∧ token ≠ .flowEntry then .error .grammar
      else
        let r := if first then r else drop r
        match ← peek ctx r with
        | .flowSequenceEnd => .ok ([], drop r)
        | .key =>
          let inner ← ctx.inside
          let (key, r) ←
            readUnless inner fuel false false [.value, .flowEntry, .flowSequenceEnd] (drop r)
          let (value, r) ← match ← peek inner r with
            | .value => readUnless inner fuel false false [.flowEntry, .flowSequenceEnd] (drop r)
            | _ => .ok (empty, r)
          let (items, r) ← flowItems ctx fuel false r
          .ok (.mapping (commonTag "map") [(key, value)] :: items, r)
        | _ =>
          let (item, r) ← read ctx fuel false false r
          let (items, r) ← flowItems ctx fuel false r
          .ok (item :: items, r)

/-- The entries of a mapping in brackets; an item without a key is a key without a value. -/
def flowEntries (ctx : Context) :
    (fuel : Nat) → (first : Bool) → Reading → Except Fault (List (Node × Node) × Reading)
  | 0, _, _ => .error .grammar
  | fuel + 1, first, r => do
    match ← peek ctx r with
    | .flowMappingEnd => .ok ([], drop r)
    | token =>
      if ¬first ∧ token ≠ .flowEntry then .error .grammar
      else
        let r := if first then r else drop r
        match ← peek ctx r with
        | .flowMappingEnd => .ok ([], drop r)
        | .key =>
          let (key, r) ←
            readUnless ctx fuel false false [.value, .flowEntry, .flowMappingEnd] (drop r)
          let (value, r) ← match ← peek ctx r with
            | .value => readUnless ctx fuel false false [.flowEntry, .flowMappingEnd] (drop r)
            | _ => .ok (empty, r)
          let (entries, r) ← flowEntries ctx fuel false r
          .ok ((key, value) :: entries, r)
        | _ =>
          let (key, r) ← read ctx fuel false false r
          let (entries, r) ← flowEntries ctx fuel false r
          .ok ((key, empty) :: entries, r)

end

/-- The handles that stand for something in every document. -/
def commonHandles : List (Text × Text) :=
  [(bareTag, bareTag), (Text.ofString "!!", commonTag "")]

/-- Handles that a document declares, before those that it does not redefine. -/
def withCommon (declared : List (Text × Text)) : List (Text × Text) :=
  commonHandles.foldl (fun known (handle, stem) =>
    if (lookup? handle known).isSome then known else known ++ [(handle, stem)]) declared

/-- The directives before a document: at most one version, of the first major, and each handle at
most once. -/
def directives (fault : Option Fault) :
    (version : Bool) → (declared : List (Text × Text)) → List Token →
      Except Fault (List (Text × Text) × List Token)
  | _, _, [] => .error (fault.getD .grammar)
  | version, declared, .directive d :: rest =>
    match d with
    | .version major =>
      if version ∨ major ≠ 1 then .error .grammar else directives fault true declared rest
    | .tag handle stem =>
      if (lookup? handle declared).isSome then .error .grammar
      else directives fault version (declared ++ [(handle, stem)]) rest
    | .other => directives fault version declared rest
  | _, declared, tokens => .ok (withCommon declared, tokens)

/-- Directives and the mark of a document, after any marks of a document's end: its handles, and
the tokens of its content. None at the end of the text. -/
def explicitStart (fault : Option Fault) (tokens : List Token) :
    Except Fault (Option (List (Text × Text) × List Token)) :=
  match tokens.dropWhile (· = .documentEnd) with
  | [] => .error (fault.getD .grammar)
  | .streamEnd :: _ => .ok none
  | tokens => do
    let (handles, tokens) ← directives fault false [] tokens
    match tokens with
    | .documentStart :: rest => .ok (some (handles, rest))
    | _ => .error .grammar

/-- Whether a document that was begun explicitly has nothing in it. -/
def endsContent : Token → Bool
  | .directive _ => true
  | .documentStart => true
  | .documentEnd => true
  | .streamEnd => true
  | _ => false

/-- The handles and the tokens of the first document, and whether its mark stands before it. -/
def firstDocument (t : Tokens) : Except Fault (Option (Bool × List (Text × Text) × List Token)) :=
  let explicit := do
    let found ← explicitStart t.fault t.tokens
    .ok (found.map fun (handles, rest) => (true, handles, rest))
  match t.tokens with
  | [] => .error (t.fault.getD .grammar)
  | .directive _ :: _ => explicit
  | .documentStart :: _ => explicit
  | .streamEnd :: _ => .ok none
  | tokens => .ok (some (false, commonHandles, tokens))

/-- The only document of a text; none if there is none. -/
def ofTokens? (t : Tokens) : Except Fault (Option Node) := do
  match ← firstDocument t with
  | none => .ok none
  | some (marked, handles, tokens) =>
    let ctx : Context := ⟨handles, t.fault, assumedDepth⟩
    let r : Reading := ⟨tokens, []⟩
    let first ← peek ctx r
    let (node, r) ←
      if marked ∧ endsContent first then .ok (empty, r)
      else read ctx (4 * tokens.length + 4) true false r
    let _ ← peek ctx r
    match ← explicitStart t.fault r.tokens with
    | none => .ok (some node)
    | some _ => .error .composition

end Node

end ControlPlaneMetrics.Yaml
