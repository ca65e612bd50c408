import CssFragments.Text.Edit

/-! # Places and edits

What an editor is told about places in documents, and what it is asked to change there.

* `Location`: a range of a document.
* `TextEdit`: new text for a range; `CompletionEdit` and `AnnotatedEdit` refine it.
* `ResourceOperation`: creates, renames or deletes a document.
* `WorkspaceEdit`: edits of several documents, with the annotations that they name. -/

namespace CssFragments

/-- A range of a document. -/
structure Location where
  uri : String
  range : Range
deriving DecidableEq

/-- New text for a range. -/
structure TextEdit where
  range : Range
  newText : String
deriving DecidableEq

/-- The edit as a change of a text. -/
def TextEdit.change (e : TextEdit) : Change := ⟨some e.range, e.newText.toList⟩

/-- An edit, with the name of an annotation if it has one. -/
structure AnnotatedEdit where
  edit : TextEdit
  annotationId : Option String
deriving DecidableEq

/-- What is to be done about a document that is in the place of a created or renamed one. -/
structure CollisionOptions where
  overwrite : Option Bool
  ignoreIfExists : Option Bool
deriving DecidableEq

/-- How a document is deleted, with the name of an annotation if the deletion has one. -/
structure DeletionOptions where
  recursive : Option Bool
  ignoreIfNotExists : Option Bool
  annotationId : Option String
deriving DecidableEq

/-- An operation on a whole document, with the name of an annotation if it has one. -/
inductive ResourceOperation where
  /-- Creates a document. -/
  | create (uri : String) (options : Option CollisionOptions) (annotationId : Option String)
  /-- Moves a document to another address. -/
  | rename (oldUri newUri : String) (options : Option CollisionOptions)
      (annotationId : Option String)
  /-- Deletes a document. -/
  | delete (uri : String) (options : Option DeletionOptions)
deriving DecidableEq

/-- What an editor shows for edits that name an annotation, and whether it asks before them. -/
structure ChangeAnnotation where
  label : String
  needsConfirmation : Option Bool
  description : Option String
deriving DecidableEq

/-- A step of a change to several documents. -/
inductive DocumentChange where
  /-- Edits of one document, which may have to be at a given version. -/
  | edits (uri : String) (version : Option Int) (edits : List AnnotatedEdit)
  /-- An operation on a whole document. -/
  | resource (operation : ResourceOperation)
deriving DecidableEq

/-- Edits of several documents, by address, as a list of steps, or as both; and the annotations that
the steps name. -/
structure WorkspaceEdit where
  changes : Option (List (String × List TextEdit))
  documentChanges : Option (List DocumentChange)
  annotations : Option (List (String × ChangeAnnotation))
deriving DecidableEq

end CssFragments
