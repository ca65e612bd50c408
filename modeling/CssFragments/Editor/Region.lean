import CssFragments.Text.Position

/-! # Regions of a document

* `FoldingRange`: lines that can be folded into the first of them.
* `SelectionRange`: a range with the ranges around it, to which a selection can grow. -/

namespace CssFragments

/-- Lines that can be folded into the first of them. -/
structure FoldingRange where
  startLine : Nat
  startCharacter : Option Nat
  endLine : Nat
  endCharacter : Option Nat
  kind : Option String
  collapsedText : Option String
deriving DecidableEq

/-- A range and the ranges around it, innermost first. -/
structure SelectionRange where
  range : Range
  parents : List Range
deriving DecidableEq

namespace SelectionRange

/-- The range that holds nothing, at a position. -/
def point (p : Position) : SelectionRange := ⟨.empty p, []⟩

/-- The ranges, innermost first. -/
def chain (s : SelectionRange) : List Range := s.range :: s.parents

end SelectionRange

end CssFragments
