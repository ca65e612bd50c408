import CssFragments.Editor.Edit
import CssFragments.Json.Basic

/-! # Diagnostics

* `Diagnostic`: something that is wrong with a range of a document.
* `RelatedInformation`: a further place that helps to see why. -/

namespace CssFragments

/-- How bad a diagnostic is, by its number on the wire. -/
structure Severity where
  code : Int
deriving DecidableEq

namespace Severity

/-- The stylesheet is wrong. -/
def error : Severity := ⟨1⟩

/-- The stylesheet is probably not what was meant. -/
def warning : Severity := ⟨2⟩

end Severity

/-- What identifies a kind of diagnostic. -/
inductive DiagnosticCode where
  /-- A number. -/
  | number (n : Int)
  /-- A name. -/
  | name (s : String)
deriving DecidableEq

/-- A further place that helps to see why a diagnostic is reported. -/
structure RelatedInformation where
  location : Location
  message : String
deriving DecidableEq

/-- Something that is wrong with a range of a document. The tags are numbers that the editor knows,
`helpUri` is where the code is explained, and `data` is carried along unread. -/
structure Diagnostic where
  range : Range
  severity : Option Severity
  code : Option DiagnosticCode
  source : Option String
  message : String
  related : Option (List RelatedInformation)
  tags : Option (List Int)
  helpUri : Option String
  data : Option Json

namespace Diagnostic

/-- A diagnostic with nothing to carry along. -/
def plain (range : Range) (severity : Severity) (code source message : String) : Diagnostic where
  range := range
  severity := some severity
  code := some (.name code)
  source := some source
  message := message
  related := none
  tags := none
  helpUri := none
  data := none

end Diagnostic

end CssFragments
