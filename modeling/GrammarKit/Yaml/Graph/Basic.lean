import GrammarKit.Yaml.Scalar

/-!
# Graphs of nodes

The nodes of a document. Since a reference stands for the node with its anchor, nodes can have parts
in common and can even be parts of themselves: a node names its parts by their numbers.
-/

namespace GrammarKit.Yaml

abbrev NodeId := Nat

inductive Form where
  | scalar (text : Text)
  | list (items : List NodeId)
  | map (entries : List (NodeId × NodeId))
  deriving Repr, Inhabited

structure Node where
  type : NodeType
  form : Form
  /-- Those of its entries that it has taken over from other maps. -/
  merged : List (NodeId × NodeId) := []
  deriving Repr

structure Graph where
  /-- The nodes in the order in which they were met. -/
  nodes : Array Node := #[]

namespace Graph

def size (g : Graph) : Nat := g.nodes.size

def node (g : Graph) (id : NodeId) : Node := (g.nodes[id]?).getD ⟨.unknown, .scalar [], []⟩

/-- The graph with one more node, and the number of that. -/
def add (g : Graph) (node : Node) : NodeId × Graph := (g.size, ⟨g.nodes.push node⟩)

def change (g : Graph) (id : NodeId) (f : Node → Node) : Graph := ⟨g.nodes.modify id f⟩

def entries (g : Graph) (id : NodeId) : List (NodeId × NodeId) :=
  match (g.node id).form with
  | .map entries => entries
  | _ => []

end Graph
end GrammarKit.Yaml
