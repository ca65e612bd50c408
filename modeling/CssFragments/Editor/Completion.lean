import CssFragments.Editor.Edit
import CssFragments.Json.Basic

/-! # Completions

* `CompletionItem`: a text that is offered at a position, with the edit that puts it there.
* `CompletionList`: all that is offered. -/

namespace CssFragments

/-- What an offered text is, by its number on the wire. -/
structure CompletionKind where
  code : Int
deriving DecidableEq

namespace CompletionKind

/-- A custom property. -/
def customProperty : CompletionKind := ⟨6⟩

/-- A property. -/
def property : CompletionKind := ⟨10⟩

/-- A value of a property. -/
def value : CompletionKind := ⟨12⟩

/-- A word that is a value of every property. -/
def keyword : CompletionKind := ⟨14⟩

/-- A color. -/
def color : CompletionKind := ⟨16⟩

end CompletionKind

/-- Text that explains, plain or in a markup language. -/
inductive Documentation where
  /-- Plain text. -/
  | plain (s : String)
  /-- Text in the markup language `kind`. -/
  | markup (kind value : String)
deriving DecidableEq

/-- Something that the editor does after an offered text was accepted. -/
structure Command where
  title : String
  command : String
  arguments : Option (List Json)

/-- How an offered text gets into the document. -/
inductive CompletionEdit where
  /-- In the place of a range. -/
  | edit (e : TextEdit)
  /-- In the place of one of two ranges, as the editor is set up. -/
  | insertOrReplace (newText : String) (insert replace : Range)
deriving DecidableEq

/-- The text that an edit puts into the document. -/
def CompletionEdit.newText : CompletionEdit → String
  | .edit e => e.newText
  | .insertOrReplace t _ _ => t

/-- What an editor shows beside a label: less prominent text right after it, and further text. -/
structure LabelDetails where
  detail : Option String
  description : Option String
deriving DecidableEq

/-- A text that is offered. The format and the mode of what is inserted and the tags are numbers
that the editor knows; `data` is carried along unread. -/
structure CompletionItem where
  label : String
  labelDetails : Option LabelDetails
  kind : Option CompletionKind
  detail : Option String
  documentation : Option Documentation
  deprecated : Option Bool
  preselect : Option Bool
  sortText : Option String
  filterText : Option String
  insertText : Option String
  insertTextFormat : Option Int
  insertTextMode : Option Int
  edit : Option CompletionEdit
  additionalEdits : Option (List TextEdit)
  command : Option Command
  commitCharacters : Option (List String)
  tags : Option (List Int)
  data : Option Json

/-- A text of which only the label is given. -/
def CompletionItem.bare (label : String) : CompletionItem where
  label := label
  labelDetails := none
  kind := none
  detail := none
  documentation := none
  deprecated := none
  preselect := none
  sortText := none
  filterText := none
  insertText := none
  insertTextFormat := none
  insertTextMode := none
  edit := none
  additionalEdits := none
  command := none
  commitCharacters := none
  tags := none
  data := none

/-- What is offered at a position, and whether more typing can bring up other texts. -/
structure CompletionList where
  isIncomplete : Bool
  items : List CompletionItem

namespace CompletionList

/-- Nothing is offered. -/
def empty : CompletionList := ⟨false, []⟩

end CompletionList

end CssFragments
