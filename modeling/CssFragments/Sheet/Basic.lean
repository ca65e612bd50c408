import CssFragments.Tree.Basic

/-! # Parsed stylesheets

* `Sheet`: a stylesheet, as text and as tree.
* `Sheet.textOf`, `Sheet.rangeOf`: the text and the range of a node.
* `Sheet.underCursor`: the node that a cursor is on; one right behind a word counts as on it. -/

namespace CssFragments

/-- The kinds of nodes that are one word. -/
def wordKinds : List String :=
  ["property_name", "plain_value", "identifier", "class_name", "id_name", "tag_name",
    "color_value", "function_name"]

/-- Whether a node is one word (`is_word_like`). -/
def Node.isWord (n : Node) : Bool := wordKinds.contains n.kind

/-- A stylesheet, as text and as tree. -/
structure Sheet where
  text : Text
  tree : Tree

namespace Sheet

/-- The text of a node (`node_text`). -/
def textOf (s : Sheet) (i : NodeInfo) : Text := (s.text.slice? i.start i.stop).getD []

/-- The range of a node (`node_to_range`). -/
def rangeOf (s : Sheet) (i : NodeInfo) : Range := s.text.rangeAt i.start i.stop

/-- All nodes, each before what is below it. -/
def nodes (s : Sheet) : List Node := s.tree.root.preorder

/-- The node with a name that a cursor at `p` is on (`find_node_at_position`). If there is no word
there, or it only starts there, a word that ends there counts. -/
def underCursor (s : Sheet) (p : Position) : Located :=
  let b := s.text.offsetAt p
  let here := s.tree.namedAt b
  if 0 < b && (here.node.info.start == b || !here.node.isWord) then
    let before := s.tree.namedAt (b - 1)
    if before.node.info.stop == b && before.node.isWord then before else here
  else here

end Sheet

end CssFragments
