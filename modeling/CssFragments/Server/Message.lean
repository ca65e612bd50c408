import CssFragments.Editor.Operation
import CssFragments.Json.Basic
import CssFragments.Text.Edit

/-! # Messages of a client

A client sends requests, which are answered, and notifications, which are not.

* `Request`: the greeting, the farewell, and questions about documents.
* `Notification`: what happens to documents and settings. -/

namespace CssFragments

/-- What a client wants an answer to. -/
inductive Request where
  /-- The client introduces itself. It may send settings, and say how many folds it can take. -/
  | greet (settings : Option Json) (foldLimit : Option Nat)
  /-- A question about a document. -/
  | ask (uri : String) (op : Operation) (argument : op.Argument)
  /-- The client takes its leave. -/
  | shutdown

/-- What a client lets the server know. -/
inductive Notification where
  /-- The client has read the answer to its greeting. -/
  | greeted
  /-- A document was opened. -/
  | opened (document : Document)
  /-- A document was edited. -/
  | changed (uri : String) (changes : List Change) (version : Int)
  /-- A document was closed. -/
  | closed (uri : String)
  /-- There are new settings. -/
  | configured (settings : Json)

namespace Operation

/-- What an operation is called in the journal. -/
def journalName : Operation → String
  | validate => "validate"
  | complete => "completion"
  | hover => "hover"
  | highlights => "document_highlight"
  | definition => "goto_definition"
  | references => "references"
  | prepareRename => "prepare_rename"
  | rename => "rename"
  | symbols => "document_symbol"
  | colors => "document_color"
  | presentations => "color_presentation"
  | folding => "folding_range"
  | selection => "selection_range"

end Operation

end CssFragments
