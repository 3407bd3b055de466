import GrammarKit.Yaml.Graph.Basic
import GrammarKit.Yaml.Timestamp

/-!
# Putting values together

What the nodes of a graph stand for. Since nodes can be parts of themselves, lists, maps and sets are
made empty first and filled in later, in the order in which they were made. Keys are complete before
they are looked at. No key of a map may come twice, but a map may take over the entries of others,
which then give way to its own.
-/

namespace GrammarKit.Yaml

/-- What a node stands for: a value with nothing in it that can be changed, or a container, named by
the number of its node. -/
inductive Object where
  /-- A value that holds no others. -/
  | atom (v : Value)
  /-- No number. All nodes that are written so have it in common, others have their own. -/
  | nan (owner? : Option NodeId)
  | tuple (items : List Object)
  | container (id : NodeId)
  deriving Inhabited

inductive Content where
  | list (items : List Object)
  | map (entries : List (Object × Object))
  | set (items : List Object)
  /-- The entries of a map that is shown as a list of pairs. -/
  | ordered (entries : List (Object × Object))
  deriving Inhabited

def Content.kind : Content → Container
  | .list _ => .list
  | .map _ => .map
  | .set _ => .set
  | .ordered _ => .ordered

inductive Progress where
  | untouched
  | begun
  | done (object : Object)

structure Assembly where
  graph : Graph
  progress : Array Progress
  contents : Array (Option Content)
  /-- The containers that are to be filled, the latest first. -/
  waiting : List NodeId := []

abbrev Assemble := StateT Assembly (Except Error)

/-! ### Keys -/

def isWhole (x : Binary64) (i : Int) : Bool :=
  match x with
  | .finite negative m e => Binary64.signedPart negative m * Binary64.above 2 e = i * Binary64.below 2 e
  | _ => false

def wholeOf? : Value → Option Int
  | .bool b => some (if b then 1 else 0)
  | .int i => some i
  | _ => none

/-- Whether two values that hold no others are the same key. Numbers are the same if they are equal,
and truth values count as numbers. -/
def sameAtom : Value → Value → Bool
  | .null, .null => true
  | .text s, .text t => s = t
  | .bytes bs, .bytes cs => bs = cs
  | .date d, .date e => d = e
  | .dateTime m, .dateTime n => m.isSame n
  | .float x, .float y => x = y && x != .nan || x.isZero && y.isZero
  | .float x, v => (wholeOf? v).any (isWhole x)
  | v, .float x => (wholeOf? v).any (isWhole x)
  | v, w => (wholeOf? v).isSome && wholeOf? v = wholeOf? w

mutual

def sameKey : Object → Object → Bool
  | .atom v, .atom w => sameAtom v w
  | .nan a, .nan b => a = b
  | .tuple as, .tuple bs => sameKeys as bs
  | _, _ => false

def sameKeys : List Object → List Object → Bool
  | [], [] => true
  | a :: as, b :: bs => sameKey a b && sameKeys as bs
  | _, _ => false

end

/-- Entries of a map, or of a part of it. -/
abbrev Entries := List (Object × Object)

def Entries.has (entries : Entries) (key : Object) : Bool := entries.any (sameKey ·.1 key)

/-- Entries with a value given to a key: a new key comes last, an old one stays where it is. -/
def Entries.assign (key value : Object) : Entries → Entries
  | [] => [(key, value)]
  | (k, v) :: rest =>
    if sameKey k key then (k, value) :: rest else (k, v) :: Entries.assign key value rest

namespace Assemble

/-! ### The state -/

def node (id : NodeId) : Assemble Node := return (← get).graph.node id

def changeNode (id : NodeId) (f : Node → Node) : Assemble Unit :=
  modify fun s => { s with graph := s.graph.change id f }

def setProgress (id : NodeId) (p : Progress) : Assemble Unit :=
  modify fun s => { s with progress := s.progress.setIfInBounds id p }

def content (id : NodeId) : Assemble Content :=
  return (((← get).contents[id]?).getD none).getD (.list [])

def setContent (id : NodeId) (content : Content) : Assemble Unit :=
  modify fun s => { s with contents := s.contents.setIfInBounds id (some content) }

mutual

/-- The first container in an object. -/
def container? (contents : Array (Option Content)) : Object → Option Container
  | .atom _ | .nan _ => none
  | .tuple items => containerAmong? contents items
  | .container id => ((contents[id]?).getD none).map Content.kind

/-- The first container in a list of objects. -/
def containerAmong? (contents : Array (Option Content)) : List Object → Option Container
  | [] => none
  | item :: items => (container? contents item).or (containerAmong? contents items)

end

def checkKey (key : Object) : Assemble Unit := do
  match container? (← get).contents key with
  | some kind => throw (.unhashable kind)
  | none => return

/-- An object as a key: what is in a list is copied, other containers are no keys. -/
def keyOf : Object → Assemble Object
  | .container id => do
    match ← content id with
    | .list items => return .tuple items
    | _ => throw .malformed
  | object => return object

/-! ### Maps that take over others -/

def entriesOf (id : NodeId) : Assemble (List (NodeId × NodeId)) := return (← get).graph.entries id

/-- Looks through the entries of a map, those before `index` apart. The entries of the maps named
under merge keys, collected in `taken`, come in front of its own in the end, and merge keys are gone.
At most one of them may have anything to add. The key of a default value becomes a text. -/
def mergeFrom : Nat → NodeId → Nat → List (NodeId × NodeId) → Assemble Unit
  | 0, _, _, _ => throw .malformed
  | n + 1, id, index, taken => do
    let graph := (← get).graph
    let all ← entriesOf id
    let (passed, later) := (all.drop index).span fun (key, _) => (graph.node key).type != .merge
    for (key, _) in passed do
      if (graph.node key).type = .default then
        changeNode key fun node => { node with type := .text }
    match later with
    | [] =>
      if !taken.isEmpty then
        changeNode id fun node => { node with form := .map (taken ++ all), merged := taken }
    | (_, value) :: rest =>
      if !taken.isEmpty then throw .malformed
      let reached := index + passed.length
      changeNode id fun node => { node with form := .map (all.take reached ++ rest) }
      let flattened := fun (id : NodeId) => do
        match (← node id).form with
        | .map _ =>
          mergeFrom n id 0 []
          entriesOf id
        | _ => throw .malformed
      let more ← match (← node value).form with
        | .list items => do pure (← items.mapM flattened).reverse.flatten
        | _ => flattened value
      mergeFrom n id reached more

/-- The number of merge keys in a graph, and one more: looking through a map takes no more steps. -/
def mergeSteps : Assemble Nat := do
  let graph := (← get).graph
  return graph.nodes.foldl (fun n node => match node.form with
    | .map entries => n + (entries.filter fun (key, _) => (graph.node key).type = .merge).length
    | _ => n) 1

/-! ### Scalars -/

/-- The text of a scalar; for a map, that of its default value. -/
def scalarText : Nat → NodeId → Assemble Text
  | 0, _ => throw .malformed
  | n + 1, id => do
    match (← node id).form with
    | .scalar text => return text
    | .list _ => throw .malformed
    | .map entries =>
      let graph := (← get).graph
      match entries.find? fun (key, _) => (graph.node key).type = .default with
      | some (_, value) => scalarText n value
      | none => throw .malformed

def scalarObject (version : Version) (id : NodeId) (t : Text) : NodeType → Except Error Object
  | .null => .ok (.atom .null)
  | .bool => (truthOf t).map (.atom ∘ .bool)
  | .int => (intOf version t).map (.atom ∘ .int)
  | .float => (floatOf version t).map fun
    | .nan => .nan none
    | .computed .nan => .nan (some id)
    | .computed x => .atom (.float x)
  | .timestamp => (timestampOf t).map .atom
  | .binary => (bytesOf t).map (.atom ∘ .bytes)
  | .text => .ok (.atom (.text t))
  | _ => .error .malformed

/-- The empty container of a type. -/
def empty? : NodeType → Option Content
  | .list | .pairs => some (.list [])
  | .map => some (.map [])
  | .set => some (.set [])
  | .ordered => some (.ordered [])
  | _ => none

/-! ### Containers -/

/-- The entries of the maps that are the items of a node; each map has to have one. -/
def singleEntries (id : NodeId) : Assemble (List (Assemble (NodeId × NodeId))) := do
  match (← node id).form with
  | .list items => return items.map fun item => do
      match (← node item).form with
      | .map [entry] => return entry
      | _ => throw .malformed
  | _ => throw .malformed

mutual

/-- What a node stands for. Something inside of itself that is not complete stands for nothing. A
container is filled at once if it is `wanted` complete, otherwise later. -/
def construct (version : Version) : Nat → Bool → NodeId → Assemble Object
  | 0, _, _ => throw .malformed
  | n + 1, wanted, id => do
    match (← get).progress[id]? with
    | some (.done object) => return object
    | some .untouched =>
      setProgress id .begun
      let type := (← node id).type
      let object ← match empty? type with
        | some content =>
          setContent id content
          if wanted then fill version n true id
          else modify fun s => { s with waiting := id :: s.waiting }
          pure (.container id)
        | none =>
          if type = .timestamp && !((← node id).form matches .scalar _) then throw .malformed
          let t ← scalarText ((← get).graph.size + 1) id
          match scalarObject version id t type with
          | .ok object => pure object
          | .error e => throw e
      setProgress id (.done object)
      return object
    | _ => return .atom .null

def fill (version : Version) : Nat → Bool → NodeId → Assemble Unit
  | 0, _, _ => throw .malformed
  | n + 1, wanted, id => do
    match (← node id).type with
    | .map => setContent id (.map (← constructMap version n wanted id))
    | .set => setContent id (.set ((← constructMap version n wanted id).map (·.1)))
    | .list =>
      match (← node id).form with
      | .list items => setContent id (.list (← items.mapM (construct version n wanted)))
      | _ => throw .malformed
    | .ordered =>
      let entries ← (← singleEntries id).foldlM (fun done entry => do
        let (key, value) ← entry
        let k ← construct version n wanted key
        checkKey k
        if Entries.has done k then throw .repeatedKey
        return done ++ [(k, ← construct version n wanted value)]) []
      setContent id (.ordered entries)
    | .pairs =>
      let pairs ← (← singleEntries id).mapM fun entry => do
        let (key, value) ← entry
        let k ← construct version n wanted key
        return .tuple [k, ← construct version n wanted value]
      setContent id (.list pairs)
    | _ => return

def constructMap (version : Version) : Nat → Bool → NodeId → Assemble Entries
  | 0, _, _ => throw .malformed
  | n + 1, wanted, id => do
    if !((← node id).form matches .map _) then throw .malformed
    mergeFrom (← mergeSteps) id 0 []
    let entry := fun (key, value) => do
      let k ← keyOf (← construct version n true key)
      let v ← construct version n wanted value
      checkKey k
      return (k, v)
    let own ← entriesOf id
    match (← node id).merged with
    | [] =>
      own.foldlM (fun done e => do
        let (k, v) ← entry e
        if Entries.has done k then throw .malformed
        return done ++ [(k, v)]) []
    | merged =>
      (merged ++ own).foldlM (fun done e => do
        let (k, v) ← entry e
        return Entries.assign k v done) []

end

/-- Fills all containers that are waiting, in rounds: what is made in one round is filled in the
next. -/
def fillAll (version : Version) (fuel : Nat) : Nat → Assemble Unit
  | 0 => return
  | n + 1 => do
    let waiting := (← get).waiting.reverse
    if !waiting.isEmpty then
      modify fun s => { s with waiting := [] }
      for id in waiting do fill version fuel false id
      fillAll version fuel n

end Assemble
end GrammarKit.Yaml
