import CssFragments.Color.Basic
import CssFragments.Editor.Edit

/-! # Colors in a document

* `ColorInformation`: a color and where it is written.
* `ColorPresentation`: a way to write a color. -/

namespace CssFragments

/-- A color and where it is written. -/
structure ColorInformation where
  range : Range
  color : Channels

/-- A way to write a color, with the edits that do it. -/
structure ColorPresentation where
  label : String
  edit : Option TextEdit
  additionalEdits : Option (List TextEdit)
deriving DecidableEq

end CssFragments
