import CssFragments.Server.Message
import CssFragments.Session.Basic
import CssFragments.Wire.Read
import CssFragments.Wire.Write

/-! # Messages on the wire

A message has the name of a method and parameters.

* `Request.ofJson?`, `Notification.ofJson?`: the messages of a client.
* `Notice.toJson`: what the client is told without asking. -/

namespace CssFragments

/-! ## From the client -/

/-- Reads an edit. -/
def Change.ofJson? (j : Json) : Option Change := do
  return ⟨← j.optional? "range" Range.ofJson?, (← j.member? "text" Json.string?).toList⟩

/-- Reads a document with its text. -/
def Document.ofJson? (j : Json) : Option Document := do
  return ⟨← j.member? "uri" Json.string?, ← j.member? "version" Json.int?,
    (← j.member? "text" Json.string?).toList⟩

namespace Request

/-- The address of the document that a message is about. -/
def uriOf? (params : Json) : Option String :=
  params.member? "textDocument" fun document => document.member? "uri" Json.string?

/-- The position that a message is about. -/
def positionOf? (params : Json) : Option Position := params.member? "position" Position.ofJson?

/-- The operation of a method. -/
def operation? (method : String) : Option Operation :=
  match method with
  | "textDocument/completion" => some .complete
  | "textDocument/hover" => some .hover
  | "textDocument/documentHighlight" => some .highlights
  | "textDocument/definition" => some .definition
  | "textDocument/references" => some .references
  | "textDocument/prepareRename" => some .prepareRename
  | "textDocument/rename" => some .rename
  | "textDocument/documentSymbol" => some .symbols
  | "textDocument/documentColor" => some .colors
  | "textDocument/colorPresentation" => some .presentations
  | "textDocument/foldingRange" => some .folding
  | "textDocument/selectionRange" => some .selection
  | _ => none

/-- Reads what an operation is asked with. -/
def argument? (params : Json) : (op : Operation) → Option op.Argument
  | .validate => some ()
  | .complete => positionOf? params
  | .hover => positionOf? params
  | .highlights => positionOf? params
  | .definition => positionOf? params
  | .references => do
    return (← positionOf? params,
      ← params.member? "context" fun c => c.member? "includeDeclaration" Json.bool?)
  | .prepareRename => positionOf? params
  | .rename => do return (← positionOf? params, ← params.member? "newName" Json.string?)
  | .symbols => some ()
  | .colors => some ()
  | .presentations => do
    return (← params.member? "color" Channels.ofJson?, ← params.member? "range" Range.ofJson?)
  | .folding => some none
  | .selection => params.member? "positions" (Json.listOf? Position.ofJson?)

/-- How many folds the client can take, if it says so. -/
def foldLimit? (params : Json) : Option Nat := do
  let capabilities ← params.given? "capabilities"
  let document ← capabilities.given? "textDocument"
  let folding ← document.given? "foldingRange"
  (← folding.given? "rangeLimit").nat?

/-- Reads a request. -/
def ofJson? (method : String) (params : Json) : Option Request :=
  match method with
  | "initialize" => some (.greet (params.given? "initializationOptions") (foldLimit? params))
  | "shutdown" => some .shutdown
  | _ => do
    let op ← operation? method
    return .ask (← uriOf? params) op (← argument? params op)

end Request

namespace Notification

/-- Reads a notification. -/
def ofJson? (method : String) (params : Json) : Option Notification :=
  match method with
  | "initialized" => some .greeted
  | "textDocument/didOpen" => (params.member? "textDocument" Document.ofJson?).map .opened
  | "textDocument/didChange" => do
    let version ← params.member? "textDocument" fun document => document.member? "version" Json.int?
    let changes ← params.member? "contentChanges" (Json.listOf? Change.ofJson?)
    return .changed (← Request.uriOf? params) changes version
  | "textDocument/didClose" => (Request.uriOf? params).map .closed
  | "workspace/didChangeConfiguration" => (params.get? "settings").map .configured
  | _ => none

end Notification

/-! ## To the client -/

namespace Notice

/-- The parameters for publishing what is wrong with a document. -/
def published (uri : String) (diagnostics : List Diagnostic) (version : Option Int) : Json :=
  .ofMembers
    [("uri", some (.string uri)), ("diagnostics", some (.list Diagnostic.toJson diagnostics)),
      ("version", version.map .integer)]

/-- The method of a notice. -/
def method : Notice → String
  | .markers .. | .cleared _ => "textDocument/publishDiagnostics"
  | .message _ => "window/logMessage"

/-- The parameters of a notice. -/
def params : Notice → Json
  | .markers uri diagnostics version => published uri diagnostics (some version)
  | .cleared uri => published uri [] none
  | .message text => .object [("type", .ofNat 3), ("message", .string text)]

/-- A notice as an object. -/
def toJson (n : Notice) : Json :=
  .object [("method", .string n.method), ("params", n.params)]

end Notice

end CssFragments
