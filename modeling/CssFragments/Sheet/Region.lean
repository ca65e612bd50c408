import CssFragments.Editor.Region
import CssFragments.Sheet.Basic

/-! # Regions of a stylesheet

* `Sheet.folds`: blocks can be folded down to the line above their end, comments altogether.
* `Sheet.selections`: a selection grows from the node at a position to the nodes around it. -/

namespace CssFragments

namespace Sheet

/-- The fold of a block, if there is a line between its first and its last one (`block_range`). -/
def blockFold? (s : Sheet) (i : NodeInfo) : Option FoldingRange :=
  let r := s.rangeOf i
  if r.stop.line ≤ r.start.line + 1 then none
  else some
    { startLine := r.start.line
      startCharacter := some r.start.character
      endLine := r.stop.line - 1
      endCharacter := none
      kind := none
      collapsedText := none }

/-- The fold of a comment, if it has more than one line (`comment_range`). -/
def commentFold? (s : Sheet) (i : NodeInfo) : Option FoldingRange :=
  let r := s.rangeOf i
  if r.stop.line ≤ r.start.line then none
  else some
    { startLine := r.start.line
      startCharacter := none
      endLine := r.stop.line
      endCharacter := none
      kind := some "comment"
      collapsedText := none }

/-- The fold of a node. -/
def foldOf? (s : Sheet) (n : Node) : Option FoldingRange :=
  if n.kind = "block" || n.kind = "keyframe_block_list" then s.blockFold? n.info
  else if n.kind = "comment" then s.commentFold? n.info
  else none

/-- All folds, in the order of the text (`folding_ranges`). -/
def folds (s : Sheet) : List FoldingRange := s.nodes.filterMap s.foldOf?

/-- A list without the elements that repeat the one before them. -/
def collapseRepeats : List Range → List Range
  | [] => []
  | r :: rest =>
    match collapseRepeats rest with
    | [] => [r]
    | r' :: rest' => if r = r' then r' :: rest' else r :: r' :: rest'

/-- The ranges to which a selection at a position can grow (`selection_range`). -/
def selection (s : Sheet) (p : Position) : SelectionRange :=
  let path := (s.tree.nodeAt (s.text.offsetAt p)).path
  match collapseRepeats (path.map fun n => s.rangeOf n.info) with
  | [] => .point p
  | r :: parents => ⟨r, parents⟩

/-- The ranges to which selections at some positions can grow (`selection_ranges`). -/
def selections (s : Sheet) (ps : List Position) : List SelectionRange := ps.map s.selection

end Sheet

end CssFragments
