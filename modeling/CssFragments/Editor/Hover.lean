import CssFragments.Editor.Edit

/-! # Hovers and highlights

* `Hover`: what is shown for the symbol under the pointer.
* `Highlight`: a place where the symbol under the cursor occurs. -/

namespace CssFragments

/-- A text to show, plain or in a programming language. -/
inductive MarkedText where
  /-- Text in the editor's own markup. -/
  | plain (s : String)
  /-- Text in the given language. -/
  | code (language value : String)
deriving DecidableEq

/-- What a hover shows. -/
inductive HoverContents where
  /-- One text. -/
  | one (t : MarkedText)
  /-- Several texts. -/
  | many (ts : List MarkedText)
  /-- Text in the markup language `kind`. -/
  | markup (kind value : String)
deriving DecidableEq

/-- What is shown for the symbol under the pointer, and the range of that symbol. -/
structure Hover where
  contents : HoverContents
  range : Option Range
deriving DecidableEq

/-- What happens to a symbol where it occurs, by its number on the wire. -/
structure HighlightKind where
  code : Int
deriving DecidableEq

namespace HighlightKind

/-- It is mentioned. -/
def text : HighlightKind := ⟨1⟩

/-- It is used. -/
def read : HighlightKind := ⟨2⟩

/-- It is defined. -/
def write : HighlightKind := ⟨3⟩

end HighlightKind

/-- A place where a symbol occurs. -/
structure Highlight where
  range : Range
  kind : Option HighlightKind
deriving DecidableEq

end CssFragments
