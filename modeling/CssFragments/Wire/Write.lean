import CssFragments.Editor.Operation
import CssFragments.Json.Basic

/-! # Answers on the wire

How what an editor is told is written as JSON. A member that has no value is left out; only the
version of a document in an edit is then written as `null`.

* `toJson` for each type of result.
* `Operation.answerJson`: the answer to an operation. -/

namespace CssFragments

/-- A list of values. -/
def Json.list {α : Type} (f : α → Json) (xs : List α) : Json := .array (xs.map f)

/-! ## Places and edits -/

/-- A position as an object. -/
def Position.toJson (p : Position) : Json :=
  .object [("line", .ofNat p.line), ("character", .ofNat p.character)]

/-- A range as an object. -/
def Range.toJson (r : Range) : Json :=
  .object [("start", r.start.toJson), ("end", r.stop.toJson)]

/-- A location as an object. -/
def Location.toJson (l : Location) : Json :=
  .object [("uri", .string l.uri), ("range", l.range.toJson)]

/-- An edit as an object. -/
def TextEdit.toJson (e : TextEdit) : Json :=
  .object [("range", e.range.toJson), ("newText", .string e.newText)]

/-- An annotated edit as an object. -/
def AnnotatedEdit.toJson (e : AnnotatedEdit) : Json :=
  .ofMembers [("range", some e.edit.range.toJson), ("newText", some (.string e.edit.newText)),
    ("annotationId", e.annotationId.map .string)]

/-- What is done about a document in the way, as an object. -/
def CollisionOptions.toJson (o : CollisionOptions) : Json :=
  .ofMembers [("overwrite", o.overwrite.map .bool), ("ignoreIfExists", o.ignoreIfExists.map .bool)]

/-- How a document is deleted, as an object. -/
def DeletionOptions.toJson (o : DeletionOptions) : Json :=
  .ofMembers
    [("recursive", o.recursive.map .bool), ("ignoreIfNotExists", o.ignoreIfNotExists.map .bool),
      ("annotationId", o.annotationId.map .string)]

/-- An operation on a whole document as an object. -/
def ResourceOperation.toJson : ResourceOperation → Json
  | .create uri options annotationId =>
    .ofMembers
      [("kind", some (.string "create")), ("uri", some (.string uri)),
        ("options", options.map CollisionOptions.toJson),
        ("annotationId", annotationId.map .string)]
  | .rename oldUri newUri options annotationId =>
    .ofMembers
      [("kind", some (.string "rename")), ("oldUri", some (.string oldUri)),
        ("newUri", some (.string newUri)), ("options", options.map CollisionOptions.toJson),
        ("annotationId", annotationId.map .string)]
  | .delete uri options =>
    .ofMembers
      [("kind", some (.string "delete")), ("uri", some (.string uri)),
        ("options", options.map DeletionOptions.toJson)]

/-- An annotation as an object. -/
def ChangeAnnotation.toJson (a : ChangeAnnotation) : Json :=
  .ofMembers
    [("label", some (.string a.label)), ("needsConfirmation", a.needsConfirmation.map .bool),
      ("description", a.description.map .string)]

/-- A step of a change to several documents as an object. -/
def DocumentChange.toJson : DocumentChange → Json
  | .edits uri version es =>
    .object
      [("textDocument",
          .object [("uri", .string uri), ("version", .ofOption (version.map .integer))]),
        ("edits", .list AnnotatedEdit.toJson es)]
  | .resource operation => operation.toJson

/-- A change to several documents as an object. -/
def WorkspaceEdit.toJson (w : WorkspaceEdit) : Json :=
  .ofMembers
    [("changes", w.changes.map fun entries =>
        .object (entries.map fun e => (e.1, .list TextEdit.toJson e.2))),
      ("documentChanges", w.documentChanges.map (.list DocumentChange.toJson)),
      ("changeAnnotations", w.annotations.map fun entries =>
        .object (entries.map fun e => (e.1, e.2.toJson)))]

/-! ## Diagnostics -/

/-- The code of a diagnostic, a number or a text. -/
def DiagnosticCode.toJson : DiagnosticCode → Json
  | .number n => .integer n
  | .name s => .string s

/-- A related place as an object. -/
def RelatedInformation.toJson (i : RelatedInformation) : Json :=
  .object [("location", i.location.toJson), ("message", .string i.message)]

/-- A diagnostic as an object. -/
def Diagnostic.toJson (d : Diagnostic) : Json :=
  .ofMembers
    [("range", some d.range.toJson), ("severity", d.severity.map (.integer ·.code)),
      ("code", d.code.map DiagnosticCode.toJson), 
      ("codeDescription", d.helpUri.map fun uri => .object [("href", .string uri)]),
      ("source", d.source.map .string), ("message", some (.string d.message)),
      ("relatedInformation", d.related.map (.list RelatedInformation.toJson)),
      ("tags", d.tags.map (.list .integer)), ("data", d.data)]

/-! ## Completions -/

/-- An explanation, a text or an object. -/
def Documentation.toJson : Documentation → Json
  | .plain s => .string s
  | .markup kind value => .object [("kind", .string kind), ("value", .string value)]

/-- A command as an object. -/
def Command.toJson (c : Command) : Json :=
  .ofMembers [("title", some (.string c.title)), ("command", some (.string c.command)),
    ("arguments", c.arguments.map .array)]

/-- The edit of an offered text as an object. -/
def CompletionEdit.toJson : CompletionEdit → Json
  | .edit e => e.toJson
  | .insertOrReplace newText insert replace =>
    .object [("newText", .string newText), ("insert", insert.toJson), ("replace", replace.toJson)]

/-- What is shown beside a label, as an object. -/
def LabelDetails.toJson (d : LabelDetails) : Json :=
  .ofMembers [("detail", d.detail.map .string), ("description", d.description.map .string)]

/-- An offered text as an object. -/
def CompletionItem.toJson (i : CompletionItem) : Json :=
  .ofMembers
    [("label", some (.string i.label)), ("labelDetails", i.labelDetails.map LabelDetails.toJson),
      ("kind", i.kind.map (.integer ·.code)), ("detail", i.detail.map .string),
      ("documentation", i.documentation.map Documentation.toJson),
      ("deprecated", i.deprecated.map .bool), ("preselect", i.preselect.map .bool),
      ("sortText", i.sortText.map .string), ("filterText", i.filterText.map .string),
      ("insertText", i.insertText.map .string),
      ("insertTextFormat", i.insertTextFormat.map .integer),
      ("insertTextMode", i.insertTextMode.map .integer),
      ("textEdit", i.edit.map CompletionEdit.toJson),
      ("additionalTextEdits", i.additionalEdits.map (.list TextEdit.toJson)),
      ("command", i.command.map Command.toJson),
      ("commitCharacters", i.commitCharacters.map (.list .string)),
      ("tags", i.tags.map (.list .integer)), ("data", i.data)]

/-- All that is offered as an object. -/
def CompletionList.toJson (l : CompletionList) : Json :=
  .object [("isIncomplete", .bool l.isIncomplete), ("items", .list CompletionItem.toJson l.items)]

/-! ## Hovers and highlights -/

/-- A text to show, plain or as an object. -/
def MarkedText.toJson : MarkedText → Json
  | .plain s => .string s
  | .code language value => .object [("language", .string language), ("value", .string value)]

/-- What a hover shows. -/
def HoverContents.toJson : HoverContents → Json
  | .one t => t.toJson
  | .many ts => .list MarkedText.toJson ts
  | .markup kind value => .object [("kind", .string kind), ("value", .string value)]

/-- A hover as an object. -/
def Hover.toJson (h : Hover) : Json :=
  .ofMembers [("contents", some h.contents.toJson), ("range", h.range.map Range.toJson)]

/-- A highlight as an object. -/
def Highlight.toJson (h : Highlight) : Json :=
  .ofMembers [("range", some h.range.toJson), ("kind", h.kind.map (.integer ·.code))]

/-! ## Symbols -/

/-- The members of an entry of the outline, without what is below it. -/
def SymbolInfo.members (i : SymbolInfo) : List (String × Option Json) :=
  [("name", some (.string i.name)), ("detail", i.detail.map .string),
    ("kind", some (.integer i.kind.code)), ("tags", i.tags.map (.list .integer)),
    ("deprecated", i.deprecated.map .bool), ("range", some i.range.toJson),
    ("selectionRange", some i.selectionRange.toJson)]

mutual

/-- An entry of the outline as an object. -/
def Symbol.toJson : Symbol → Json
  | .node i children => .ofMembers (i.members ++ [("children", Symbol.childrenJson children)])
termination_by structural n => n

/-- The entries below an entry, if they are listed. -/
def Symbol.childrenJson : Option (List Symbol) → Option Json
  | none => none
  | some children => some (.array (Symbol.listJson children))
termination_by structural children => children

/-- Entries of the outline. -/
def Symbol.listJson : List Symbol → List Json
  | [] => []
  | n :: rest => Symbol.toJson n :: Symbol.listJson rest
termination_by structural ns => ns

end

/-! ## Colors -/

/-- The four parts of a color as an object. -/
def Channels.toJson (c : Channels) : Json :=
  .object [("red", .single c.red), ("green", .single c.green), ("blue", .single c.blue),
    ("alpha", .single c.alpha)]

/-- A color in a document as an object. -/
def ColorInformation.toJson (c : ColorInformation) : Json :=
  .object [("range", c.range.toJson), ("color", c.color.toJson)]

/-- A way to write a color as an object. -/
def ColorPresentation.toJson (p : ColorPresentation) : Json :=
  .ofMembers [("label", some (.string p.label)), ("textEdit", p.edit.map TextEdit.toJson),
    ("additionalTextEdits", p.additionalEdits.map (.list TextEdit.toJson))]

/-! ## Regions -/

/-- A fold as an object. -/
def FoldingRange.toJson (f : FoldingRange) : Json :=
  .ofMembers
    [("startLine", some (.ofNat f.startLine)), ("startCharacter", f.startCharacter.map .ofNat),
      ("endLine", some (.ofNat f.endLine)), ("endCharacter", f.endCharacter.map .ofNat),
      ("kind", f.kind.map .string), ("collapsedText", f.collapsedText.map .string)]

/-- A chain of ranges: each object has the next one inside it. -/
def SelectionRange.chainJson (range : Range) : List Range → Json
  | [] => .object [("range", range.toJson)]
  | parent :: rest => .object [("range", range.toJson), ("parent", chainJson parent rest)]

/-- The ranges to which a selection can grow, as objects inside each other. -/
def SelectionRange.toJson (s : SelectionRange) : Json := chainJson s.range s.parents

/-! ## Operations -/

namespace Operation

/-- The answer to an operation. -/
def answerJson : (op : Operation) → op.Answer → Json
  | .validate, ds => .list Diagnostic.toJson ds
  | .complete, l => l.toJson
  | .hover, h => .ofOption (h.map Hover.toJson)
  | .highlights, hs => .list Highlight.toJson hs
  | .definition, l => .ofOption (l.map Location.toJson)
  | .references, ls => .list Location.toJson ls
  | .prepareRename, r => .ofOption (r.map Range.toJson)
  | .rename, w => .ofOption (w.map WorkspaceEdit.toJson)
  | .symbols, ss => .array (Symbol.listJson ss)
  | .colors, cs => .list ColorInformation.toJson cs
  | .presentations, ps => .list ColorPresentation.toJson ps
  | .folding, fs => .list FoldingRange.toJson fs
  | .selection, rs => .list SelectionRange.toJson rs

/-- The argument of an operation, beside the document. -/
def argumentJson : (op : Operation) → op.Argument → Json
  | .validate, _ => .null
  | .complete, p => p.toJson
  | .hover, p => p.toJson
  | .highlights, p => p.toJson
  | .definition, p => p.toJson
  | .references, (p, withDefinitions) => .array [p.toJson, .bool withDefinitions]
  | .prepareRename, p => p.toJson
  | .rename, (p, name) => .array [p.toJson, .string name]
  | .symbols, _ => .null
  | .colors, _ => .null
  | .presentations, (color, range) => .array [color.toJson, range.toJson]
  | .folding, limit => .ofOption (limit.map .ofNat)
  | .selection, ps => .list Position.toJson ps

end Operation

end CssFragments
