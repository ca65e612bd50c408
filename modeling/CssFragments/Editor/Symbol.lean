import CssFragments.Editor.Edit

/-! # Symbols of a document

* `SymbolInfo`: one entry of the outline.
* `Symbol`: an entry with the entries below it. -/

namespace CssFragments

/-- What a symbol is, by its number on the wire. -/
structure SymbolKind where
  code : Int
deriving DecidableEq

namespace SymbolKind

/-- A rule for what is inside it. -/
def atRule : SymbolKind := ⟨2⟩

/-- A rule for elements. -/
def rule : SymbolKind := ⟨5⟩

/-- An animation. -/
def animation : SymbolKind := ⟨12⟩

/-- A custom property. -/
def customProperty : SymbolKind := ⟨13⟩

end SymbolKind

/-- One entry of the outline: the whole of it, and the part that is selected when it is chosen. The
tags are numbers that the editor knows. -/
structure SymbolInfo where
  name : String
  detail : Option String
  kind : SymbolKind
  tags : Option (List Int)
  deprecated : Option Bool
  range : Range
  selectionRange : Range

/-- An entry of the outline with the entries below it, if these are listed. -/
inductive Symbol where
  /-- An entry and the entries below it. -/
  | node (info : SymbolInfo) (children : Option (List Symbol))

namespace Symbol

/-- The entry itself. -/
def info : Symbol → SymbolInfo
  | node i _ => i

/-- The entries below. -/
def children : Symbol → List Symbol
  | node _ cs => cs.getD []

end Symbol

end CssFragments
