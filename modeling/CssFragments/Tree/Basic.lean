import CssFragments.Tree.Node

/-! # Syntax trees

* `Tree`: a syntax tree that can be asked which node stands at an offset.
* `Tree.nodeAt`, `Tree.namedAt`: the innermost node there, and the innermost one with a name. -/

namespace CssFragments

/-- The nodes that stand at an offset, by their places in the list of all nodes: the innermost, and
the innermost with a name. -/
structure Pin where
  offset : Nat
  node : Nat
  namedNode : Nat
deriving DecidableEq

/-- A syntax tree. At most offsets the nodes there are found on the way down; the parser pins down
those where it knows better, since it sees more than the tree shows. -/
structure Tree where
  root : Node
  pins : List Pin

namespace Tree

/-- A node by its place in the list of all nodes. -/
def nth? (t : Tree) (index : Nat) : Option Located := (t.root.walk [])[index]?

/-- The end of a way down, given innermost first; the root, where nothing is on the way. -/
def arrive (t : Tree) : List Node → Located
  | [] => ⟨t.root, []⟩
  | n :: above => ⟨n, above⟩

/-- A way down, innermost first, up to its innermost node with a name, or its outermost one. -/
def toNamed : List Node → List Node
  | [] => []
  | [n] => [n]
  | n :: above => if n.info.named then n :: above else toNamed above

/-- The innermost node at an offset. -/
def nodeAt (t : Tree) (b : Nat) : Located :=
  match (t.pins.find? fun p => p.offset == b).bind fun p => t.nth? p.node with
  | some l => l
  | none => t.arrive (t.root.descend b).reverse

/-- The innermost node with a name at an offset. -/
def namedAt (t : Tree) (b : Nat) : Located :=
  match (t.pins.find? fun p => p.offset == b).bind fun p => t.nth? p.namedNode with
  | some l => l
  | none => t.arrive (toNamed (t.root.descend b).reverse)

end Tree

end CssFragments
