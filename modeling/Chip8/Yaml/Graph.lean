import Chip8.Text
import Chip8.Yaml.Tag
/-!
A document as a graph: its nodes in the order in which they begin, and for each what it consists of.
An alias is the number of the node it stands for, so a node may have several places, also inside
itself.
-/

namespace Chip8.Yaml

/-- Parts of collections are numbers of nodes. -/
inductive Content where
  | scalar (text : Text)
  | sequence (items : List Nat)
  | mapping (entries : List (Nat × Nat))
  deriving DecidableEq, Repr

structure Node where
  tag : Tag
  content : Content
  deriving DecidableEq, Repr

abbrev Graph := Array Node

namespace Graph

def node (graph : Graph) (number : Nat) : Node := graph.getD number ⟨.null, .scalar ⟨[]⟩⟩

def tag (graph : Graph) (number : Nat) : Tag := (graph.node number).tag

def content (graph : Graph) (number : Nat) : Content := (graph.node number).content

def entries (graph : Graph) (number : Nat) : List (Nat × Nat) :=
  match graph.content number with
  | .mapping entries => entries
  | _ => []

def setContent (graph : Graph) (number : Nat) (content : Content) : Graph :=
  graph.modify number fun node => { node with content := content }

def setTag (graph : Graph) (number : Nat) (tag : Tag) : Graph :=
  graph.modify number fun node => { node with tag := tag }

end Graph

end Chip8.Yaml
