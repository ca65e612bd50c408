import CssFragments.Text.Basic

/-! # Nodes of a syntax tree

A parser describes a stylesheet as a tree of nodes. Each covers the bytes of the text from its start
to its stop and has a kind; the kind of a punctuation mark or keyword is its own text.

* `NodeInfo`, `Node`: a node without and with what is below it.
* `Node.ofPreorder?`: the tree of a list of nodes, each with its number of children.
* `Node.preorder`: all nodes, each before what is below it.
* `Located`, `Node.walk`: nodes together with the nodes around them.
* `Node.descend`: the nodes that are met on the way down to an offset. -/

namespace CssFragments

/-- What a node is and which bytes it covers. -/
structure NodeInfo where
  /-- The kind of construct. -/
  kind : String
  /-- Whether it is a construct of the grammar with a name of its own. -/
  named : Bool
  /-- Whether the parser put it in because it is missing. -/
  missing : Bool
  /-- Whether there is an error in it. -/
  hasError : Bool
  /-- The offset of its first byte. -/
  start : Nat
  /-- The offset behind its last byte. -/
  stop : Nat
deriving DecidableEq

/-- A node and the nodes below it. -/
inductive Node where
  /-- A node with its children, in the order of the text. -/
  | node (info : NodeInfo) (children : List Node)

namespace Node

/-- What the node is. -/
def info : Node → NodeInfo
  | node i _ => i

/-- The nodes right below. -/
def children : Node → List Node
  | node _ cs => cs

/-- The kind of construct. -/
def kind (n : Node) : String := n.info.kind

/-- The first node of a kind in a list. -/
def ofKind? (kind : String) (nodes : List Node) : Option Node := nodes.find? fun n => n.kind == kind

/-- The first child of a kind (`find_child_by_kind`). -/
def childOfKind? (n : Node) (kind : String) : Option Node := ofKind? kind n.children

/-! ## Trees from lists -/

/-- The tree of a list of nodes in which each stands before what is below it, given with its number
of children. Reading from the right, a node takes as many of the trees read so far as it has
children. -/
def ofPreorder? (rows : List (NodeInfo × Nat)) : Option Node :=
  match rows.foldr (fun row trees => node row.1 (trees.take row.2) :: trees.drop row.2) [] with
  | [root] => some root
  | _ => none

/-! ## All nodes -/

mutual

/-- The node and all nodes below it, each before what is below it (`walk_tree`). -/
def preorder : Node → List Node
  | node i cs => node i cs :: preorderAll cs

/-- The nodes of several trees. -/
def preorderAll : List Node → List Node
  | [] => []
  | n :: rest => preorder n ++ preorderAll rest

end

end Node

/-- A node with the nodes around it, innermost first. -/
structure Located where
  node : Node
  ancestors : List Node

namespace Located

/-- The node right around. -/
def parent? (l : Located) : Option Node := l.ancestors.head?

/-- The node and the nodes around it, innermost first. -/
def path (l : Located) : List Node := l.node :: l.ancestors

end Located

namespace Node

mutual

/-- The node and all nodes below it, each with the nodes around it. -/
def walk (above : List Node) : Node → List Located
  | node i cs => ⟨node i cs, above⟩ :: walkAll (node i cs :: above) cs

/-- The nodes of several trees, each with the nodes around it. -/
def walkAll (above : List Node) : List Node → List Located
  | [] => []
  | n :: rest => walk above n ++ walkAll above rest

end

/-! ## The way down to an offset -/

/-- Whether a node ends behind an offset, or is empty and stands there. -/
def reaches (b : Nat) (n : Node) : Bool :=
  n.info.stop > b || (n.info.start == b && n.info.stop == b)

mutual

/-- The nodes on the way down to an offset, outermost first: from each node on to the first child
that reaches the offset, unless it starts behind it. -/
def descend (b : Nat) : Node → List Node
  | node i cs => node i cs :: descendAll b cs

/-- The way down that starts in a list of siblings. -/
def descendAll (b : Nat) : List Node → List Node
  | [] => []
  | n :: rest =>
    if n.reaches b then (if n.info.start > b then [] else descend b n) else descendAll b rest

end

end Node

end CssFragments
