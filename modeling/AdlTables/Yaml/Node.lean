import AdlTables.Yaml.Kind

/-! # Nodes

The nodes of a YAML document, by numbers. An alias is the number of the node that its anchor names,
which may be a node around it: nodes form a graph that can have circles.
-/

namespace AdlTables.Yaml

/-- What is written in a node. -/
inductive Content where
  | scalar (text : String)
  | list (items : List Nat)
  | mapping (entries : List (Nat × Nat))
deriving Repr

/-- A node of a document. -/
structure Node where
  kind : Kind
  content : Content
deriving Repr

abbrev Nodes := Array Node

namespace Nodes

def kind (nodes : Nodes) (n : Nat) : Kind :=
  (nodes[n]?.map Node.kind).getD .unknown

/-- What is written in a node. -/
def content (nodes : Nodes) (n : Nat) : Content :=
  (nodes[n]?.map Node.content).getD (.scalar "")

/-- Nodes with what is written in one of them put in its place. -/
def setContent (nodes : Nodes) (n : Nat) (content : Content) : Nodes :=
  nodes.modify n fun node => { node with content := content }

def setKind (nodes : Nodes) (n : Nat) (kind : Kind) : Nodes :=
  nodes.modify n fun node => { node with kind := kind }

end Nodes

/-- Nodes with the one that the others belong to. -/
structure Rooted where
  nodes : Nodes
  root : Nat

end AdlTables.Yaml
