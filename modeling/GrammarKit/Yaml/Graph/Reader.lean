import GrammarKit.Yaml.Graph.Basic
import GrammarKit.Yaml.Lexer

/-!
# From tokens to nodes

The graph of nodes that the tokens of a document make. The type of a node follows from its tag or, if
it has none, from its form. A node with an anchor is known from its start on, so that its parts can
refer to it.
-/

namespace GrammarKit.Yaml

inductive Context where
  | flow
  | block
  /-- In a map that is laid out in lines, where the dashes of a list need no indentation. -/
  | entry
  deriving DecidableEq, Repr

structure Properties where
  anchor? : Option Text := none
  tag? : Option TagName := none
  /-- The type that the tag gives; none if there is no tag or only an exclamation mark. -/
  type? : Option NodeType := none

def Properties.any (p : Properties) : Bool := p.anchor?.isSome || p.tag?.isSome

structure Composer where
  tokens : Tokens
  /-- The nodes read so far. -/
  graph : Graph := {}
  /-- The nodes with anchors, the latest first. -/
  anchors : List (Text × NodeId) := []
  handles : List (Text × Text) := []
  version : Version

/-- Reading of nodes. Where it fails, the version that held there is still known. -/
abbrev Compose := ExceptT Error (StateM Composer)

namespace Compose

/-- The next token; nothing at the end of the text. A fault of the text comes up here. -/
def peek? : Compose (Option Token) := do
  let ⟨sound, fault?⟩ := (← get).tokens
  match sound.head?, fault? with
  | none, some fault => throw fault
  | next, _ => return next

def advance : Compose Unit :=
  modify fun s => { s with tokens := { s.tokens with sound := s.tokens.sound.tail } }

/-- Moves over the next token, which has to be the given one. -/
def expect (t : Token) : Compose Unit := do
  if (← peek?) = some t then advance else throw .malformed

def atOneOf (ts : List Token) : Compose Bool := do
  match ← peek? with
  | some t => return ts.contains t
  | none => return false

/-! ### Properties and single nodes -/

/-- The type that a written tag gives; an exclamation mark alone gives none. -/
def typeOf? (name : TagName) : Compose (Option NodeType) := do
  let full ← match name.handle? with
    | none => pure name.suffix
    | some handle =>
      match (← get).handles.lookup handle with
      | some meaning => pure (meaning ++ name.suffix)
      | none => throw .malformed
  return if full = ['!'] then none else some (.ofTag full)

/-- The anchor and the tag in front of a node, in either order. -/
def properties : Compose Properties := do
  let written : Properties ← match ← peek? with
    | some (.anchor name) =>
      advance
      match ← peek? with
      | some (.tag tag) =>
        advance
        pure { anchor? := some name, tag? := some tag }
      | _ => pure { anchor? := some name }
    | some (.tag tag) =>
      advance
      match ← peek? with
      | some (.anchor name) =>
        advance
        pure { anchor? := some name, tag? := some tag }
      | _ => pure { tag? := some tag }
    | _ => pure {}
  match written.tag? with
  | some name => return { written with type? := ← typeOf? name }
  | none => return written

/-- A new node behind its properties. -/
def addNode (p : Properties) (node : Node) : Compose NodeId := do
  let s ← get
  let (id, graph) := s.graph.add node
  let anchors := match p.anchor? with
    | some name => (name, id) :: s.anchors
    | none => s.anchors
  set { s with graph, anchors }
  return id

/-- A scalar behind its properties. Its type follows from its text if it has neither quotes nor a
tag, or an exclamation mark for a tag. -/
def addScalar (p : Properties) (plain : Bool) (text : Text) : Compose NodeId := do
  let version := (← get).version
  let usual := if plain || p.tag?.isSome then .ofPlain version text else .text
  addNode p ⟨p.type?.getD usual, .scalar text, []⟩

def absent : Compose NodeId := addScalar {} true []

/-- A list or a map behind its properties, with what its parts are read by. -/
def addCollection (p : Properties) (usual : NodeType) (parts : Compose Form) : Compose NodeId := do
  let id ← addNode p ⟨p.type?.getD usual, .list [], []⟩
  let form ← parts
  modify fun s => { s with graph := s.graph.change id fun node => { node with form } }
  return id

/-- A list behind its properties. -/
def addList (p : Properties) (items : Compose (List NodeId)) : Compose NodeId :=
  addCollection p .list (return .list (← items))

/-- A map behind its properties. -/
def addMap (p : Properties) (entries : Compose (List (NodeId × NodeId))) : Compose NodeId :=
  addCollection p .map (return .map (← entries))

def anchored (name : Text) : Compose NodeId := do
  match (← get).anchors.lookup name with
  | some id => return id
  | none => throw .malformed

/-! ### Nodes -/

mutual

def node : Nat → Context → Compose NodeId
  | 0, _ => throw .malformed
  | n + 1, context => do
    match ← peek? with
    | some (.alias name) =>
      advance
      anchored name
    | _ => content n context (← properties)

/-- A node behind its properties. With properties it may be left out. -/
def content : Nat → Context → Properties → Compose NodeId
  | 0, _, _ => throw .malformed
  | n + 1, context, p => do
    let missing := if p.any then addScalar p true [] else throw .malformed
    match ← peek? with
    | some (.scalar plain text) =>
      advance
      addScalar p plain text
    | some .openBracket =>
      advance
      addList p (flowItems n true)
    | some .openBrace =>
      advance
      addMap p (flowEntries n true)
    | some .item => if context = .entry then addList p (looseItems n) else missing
    | some .listStart =>
      if context = .flow then missing
      else
        advance
        addList p (items n)
    | some .mapStart =>
      if context = .flow then missing
      else
        advance
        addMap p (entries n)
    | _ => missing

def items : Nat → Compose (List NodeId)
  | 0 => throw .malformed
  | n + 1 => do
    match ← peek? with
    | some .item =>
      advance
      let first ← if ← atOneOf [.item, .blockEnd] then absent else node n .block
      return first :: (← items n)
    | _ =>
      expect .blockEnd
      return []

/-- The items of a list whose dashes are not indented. -/
def looseItems : Nat → Compose (List NodeId)
  | 0 => throw .malformed
  | n + 1 => do
    match ← peek? with
    | some .item =>
      advance
      let first ← if ← atOneOf [.item, .key, .value, .blockEnd] then absent else node n .block
      return first :: (← looseItems n)
    | _ => return []

/-- The node behind a question mark or a colon in a map that is laid out in lines. -/
def blockPart : Nat → Compose NodeId
  | 0 => throw .malformed
  | n + 1 => do
    if ← atOneOf [.key, .value, .blockEnd] then absent else node n .entry

/-- The value of an entry of a map that is laid out in lines. -/
def blockValue : Nat → Compose NodeId
  | 0 => throw .malformed
  | n + 1 => do
    if (← peek?) = some .value then
      advance
      blockPart n
    else absent

/-- The entries of a map that is laid out in lines. The key may be left out, but not in the old
version. -/
def entries : Nat → Compose (List (NodeId × NodeId))
  | 0 => throw .malformed
  | n + 1 => do
    let usual := (← get).version = .usual
    match ← peek? with
    | some .key =>
      advance
      let key ← blockPart n
      let value ← blockValue n
      return (key, value) :: (← entries n)
    | some .value =>
      if !usual then throw .malformed
      let key ← absent
      let value ← blockValue n
      return (key, value) :: (← entries n)
    | _ =>
      expect .blockEnd
      return []

/-- A node between brackets or braces that is left out where one of the given tokens comes. -/
def flowPart : Nat → List Token → Compose NodeId
  | 0, _ => throw .malformed
  | n + 1, ends => do
    if ← atOneOf ends then absent else node n .flow

def flowValue : Nat → Token → Compose NodeId
  | 0, _ => throw .malformed
  | n + 1, close => do
    if (← peek?) = some .value then
      advance
      flowPart n [.comma, close]
    else absent

/-- The items between brackets; an item may be an entry of a map of its own. -/
def flowItems : Nat → Bool → Compose (List NodeId)
  | 0, _ => throw .malformed
  | n + 1, first => do
    if (← peek?) = some .closeBracket then
      advance
      return []
    if !first then expect .comma
    match ← peek? with
    | some .closeBracket =>
      advance
      return []
    | some .key =>
      let item ← addMap {} do
        advance
        let key ← flowPart n [.value, .comma, .closeBracket]
        let value ← flowValue n .closeBracket
        return [(key, value)]
      return item :: (← flowItems n false)
    | _ =>
      let item ← node n .flow
      return item :: (← flowItems n false)

/-- The entries between braces. The key may be left out, but not in the old version. -/
def flowEntries : Nat → Bool → Compose (List (NodeId × NodeId))
  | 0, _ => throw .malformed
  | n + 1, first => do
    if (← peek?) = some .closeBrace then
      advance
      return []
    if !first then expect .comma
    let usual := (← get).version = .usual
    match ← peek? with
    | some .closeBrace =>
      advance
      return []
    | some .key =>
      advance
      let key ← flowPart n [.value, .comma, .closeBrace]
      let value ← flowValue n .closeBrace
      return (key, value) :: (← flowEntries n false)
    | some .value =>
      if !usual then throw .malformed
      let key ← absent
      let value ← flowValue n .closeBrace
      return (key, value) :: (← flowEntries n false)
    | _ =>
      let key ← node n .flow
      let value ← absent
      return (key, value) :: (← flowEntries n false)

end

/-! ### Documents -/

/-- What tag handles stand for unless it is said. -/
def usualHandles : List (Text × Text) := [(['!'], ['!']), (['!', '!'], generalTag)]

/-- The directives that come: the number behind the point of the version, if one is given. -/
def directives : Nat → Option Nat → Compose (Option Nat)
  | 0, _ => throw .malformed
  | n + 1, minor? => do
    match ← peek? with
    | some (.directive (.version major minor)) =>
      if minor?.isSome || major != 1 then throw .malformed
      advance
      directives n (some minor)
    | some (.directive (.tagHandle handle meaning)) =>
      let s ← get
      if (s.handles.lookup handle).isSome then throw .malformed
      set { s with handles := (handle, meaning) :: s.handles }
      advance
      directives n minor?
    | some (.directive .other) =>
      advance
      directives n minor?
    | _ => return minor?

/-- What stands before a document: its directives, which say what handles and which version hold. -/
def preamble (fuel : Nat) : Compose Unit := do
  modify fun s => { s with handles := [] }
  let version ← match ← directives fuel none with
    | some minor =>
      match Version.ofMinor? minor with
      | some version => pure version
      | none => throw (.unknownVersion minor)
    | none => pure .usual
  modify fun s => { s with handles := s.handles ++ usualHandles, version }

/-- The root of a document, whose start may be marked. -/
def root (fuel : Nat) : Compose NodeId := do
  match ← peek? with
  | some (.directive _) | some .documentStart =>
    preamble fuel
    expect .documentStart
    match ← peek? with
    | none | some (.directive _) | some .documentStart | some .documentEnd => absent
    | _ => node fuel .block
  | _ =>
    modify fun s => { s with handles := usualHandles }
    node fuel .block

/-- Moves over marks of a document's end: over one of them, in the old version over all. -/
def skipEnds : Nat → Compose Unit
  | 0 => return
  | n + 1 => do
    if (← peek?) = some .documentEnd then
      advance
      if (← get).version = .old then skipEnds n

/-- The root of the only document, if there is one. Behind it nothing may come, but directives there
are still looked at. -/
def document (fuel : Nat) : Compose (Option NodeId) := do
  match ← peek? with
  | none => return none
  | _ =>
    let id ← root fuel
    skipEnds fuel
    match ← peek? with
    | none => return some id
    | _ =>
      preamble fuel
      throw .malformed

end Compose

structure Document where
  graph : Graph
  root : NodeId
  version : Version

/-- The document that tokens make, if they make any, and the version that holds behind it. The given
version holds for a document whose start is not marked. -/
def Document.ofTokens? (held : Version) (ts : Tokens) : Except Error (Option Document) × Version :=
  let (root?, last) :=
    (Compose.document (8 * ts.sound.length + 8)).run.run { tokens := ts, version := held }
  (root?.map fun root? => root?.map fun root => ⟨last.graph, root, last.version⟩, last.version)

end GrammarKit.Yaml
