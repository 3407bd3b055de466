import GrammarKit.Yaml.Assembly
import GrammarKit.Yaml.Graph.Reader

/-!
# Values of YAML documents

The value that a YAML text describes. A container that is inside of itself is only marked there; the
values of a map that is the whole document are seen each for itself.
-/

namespace GrammarKit.Yaml

/-- The containers with their values, where these do not depend on what they are seen from. -/
abbrev Seen := StateM (Array (Option Value))

/-- A value, and whether nothing in it is marked as being inside of itself. -/
abbrev Sight := Value × Bool

def Sight.ofList (make : List Value → Value) (parts : List Sight) : Sight :=
  (make (parts.map (·.1)), parts.all (·.2))

def pairUp (make : List (Value × Value) → Value) (parts : List (Sight × Sight)) : Sight :=
  (make (parts.map fun (k, v) => (k.1, v.1)), parts.all fun (k, v) => k.2 && v.2)

def Object.see (contents : Array (Option Content)) : Nat → List NodeId → Object → Seen Sight
  | 0, _, _ => return (.null, true)
  | _ + 1, _, .atom v => return (v, true)
  | _ + 1, _, .nan _ => return (.float .nan, true)
  | n + 1, around, .tuple items =>
    return .ofList .tuple (← items.mapM (Object.see contents n around))
  | n + 1, around, .container id => do
    if let some v := ((← get)[id]?).getD none then return (v, true)
    let content := ((contents[id]?).getD none).getD (.list [])
    if around.contains id then return (.inside content.kind, false)
    let see := Object.see contents n (id :: around)
    let seeEntry := fun ((key, value) : Object × Object) => do
      let k ← see key
      return (k, ← see value)
    let sight ← match content with
      | .list items => do pure (.ofList .list (← items.mapM see))
      | .set items => do pure (.ofList .set (← items.mapM see))
      | .map entries => do pure (pairUp .map (← entries.mapM seeEntry))
      | .ordered entries => do pure (pairUp .ordered (← entries.mapM seeEntry))
    if sight.2 then modify fun seen => seen.setIfInBounds id (some sight.1)
    return sight

def Object.value (contents : Array (Option Content)) (root : Object) : Value :=
  let fuel := 4 * contents.size + 4
  let see := fun object => do return (← Object.see contents fuel [] object).1
  let seeEntry := fun ((key, value) : Object × Object) => do
    let k ← see key
    return (k, ← see value)
  let seen : Seen Value := match root with
    | .container id =>
      match (contents[id]?).getD none with
      | some (.map entries) => do return .map (← entries.mapM seeEntry)
      | some (.ordered entries) => do return .ordered (← entries.mapM seeEntry)
      | _ => see root
    | _ => see root
  (seen.run (Array.replicate contents.size none)).1

def Document.assemble (d : Document) : Assemble Object := do
  let fuel := 3 * d.graph.size + 3
  let root ← Assemble.construct d.version fuel false d.root
  Assemble.fillAll d.version fuel (d.graph.size + 1)
  return root

def Document.value (d : Document) : Except Error Value := do
  let size := d.graph.size
  let start : Assembly := ⟨d.graph, Array.replicate size .untouched, Array.replicate size none, []⟩
  let (root, last) ← d.assemble.run start
  return root.value last.contents

structure Reading where
  value : Except Error Value
  /-- The version that holds behind the text. -/
  version : Version

/-- The value that a YAML text describes; an empty one describes nothing. A document keeps the
version that held before unless its start is marked. -/
def read (held : Version) (t : Text) : Reading :=
  let (document?, version) := Document.ofTokens? held (Tokens.ofText held t)
  { value := do
      match ← document? with
      | some document => document.value
      | none => return .null
    version }

end GrammarKit.Yaml
