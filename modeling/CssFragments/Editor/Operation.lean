import CssFragments.Editor.Color
import CssFragments.Editor.Completion
import CssFragments.Editor.Diagnostic
import CssFragments.Editor.Hover
import CssFragments.Editor.Region
import CssFragments.Editor.Symbol

/-! # Operations of a language service

An editor asks a language service about a document. Each operation has its own type of argument and
of answer, so that a service is one function of an operation, a document and an argument.

* `Operation`: what can be asked.
* `Operation.Argument`, `Operation.Answer`: the types that go with an operation.
* `Operation.nothing`: the answer when there is nothing to say.
* `Failure`: why there is no answer. -/

namespace CssFragments

/-- What an editor can ask about a document. -/
inductive Operation where
  /-- What is wrong with it? -/
  | validate
  /-- What can be typed at a position? -/
  | complete
  /-- What is the symbol at a position? -/
  | hover
  /-- Where does the symbol at a position occur in this document? -/
  | highlights
  /-- Where is the symbol at a position defined? -/
  | definition
  /-- Where does the symbol at a position occur, with or without its definitions? -/
  | references
  /-- Can the symbol at a position be renamed, and which range names it? -/
  | prepareRename
  /-- Which edits give the symbol at a position a new name? -/
  | rename
  /-- What is the outline? -/
  | symbols
  /-- Where are colors written? -/
  | colors
  /-- How can a color be written in a range? -/
  | presentations
  /-- Which lines can be folded, up to a number of results? -/
  | folding
  /-- To which ranges can selections at some positions grow? -/
  | selection
deriving DecidableEq

namespace Operation

/-- What an operation is asked with, beside the document. -/
abbrev Argument : Operation → Type
  | validate => Unit
  | complete => Position
  | hover => Position
  | highlights => Position
  | definition => Position
  | references => Position × Bool
  | prepareRename => Position
  | rename => Position × String
  | symbols => Unit
  | colors => Unit
  | presentations => Channels × Range
  | folding => Option Nat
  | selection => List Position

/-- What an operation is answered with. -/
abbrev Answer : Operation → Type
  | validate => List Diagnostic
  | complete => CompletionList
  | hover => Option Hover
  | highlights => List Highlight
  | definition => Option Location
  | references => List Location
  | prepareRename => Option Range
  | rename => Option WorkspaceEdit
  | symbols => List Symbol
  | colors => List ColorInformation
  | presentations => List ColorPresentation
  | folding => List FoldingRange
  | selection => List SelectionRange

/-- The answer when there is nothing to say. A selection at a position grows to nothing but the
position itself. -/
def nothing : (op : Operation) → op.Argument → op.Answer
  | validate, _ => []
  | complete, _ => .empty
  | hover, _ => none
  | highlights, _ => []
  | definition, _ => none
  | references, _ => []
  | prepareRename, _ => none
  | rename, _ => none
  | symbols, _ => []
  | colors, _ => []
  | presentations, _ => []
  | folding, _ => []
  | selection, ps => ps.map .point

end Operation

/-- Why a question has no answer (`StyledError`). -/
inductive Failure where
  /-- The parser made no tree of the document. -/
  | unparsed (uri : String) (version : Int)
  /-- A coordinate would leave its bounds. -/
  | overflow (o : Overflow)
  /-- A byte offset does not lie between two characters. -/
  | splitCharacter
deriving DecidableEq

namespace Failure

/-- Whether a service reports the failure to those who asked. The others end what was being done. -/
def isReported : Failure → Bool
  | .unparsed _ _ => true
  | .overflow _ => false
  | .splitCharacter => false

/-- The failure in words. -/
def message : Failure → String
  | .unparsed uri version => "Failed to parse " ++ uri ++ " at version " ++ toString version
  | .overflow o => o.message
  | .splitCharacter => "byte index is not a char boundary"

end Failure

/-- Arithmetic on coordinates inside a computation that can fail otherwise. -/
def Failure.guard {α : Type} : Except Overflow α → Except Failure α
  | .ok a => .ok a
  | .error o => .error (.overflow o)

end CssFragments
