import CssFragments.Editor.Operation
import CssFragments.Json.Basic

/-! # Results from the wire

How results of an analyzer are read from JSON. A member whose value is `null` counts as absent.

* `ofJson?` for each type of result.
* `Operation.answerOfJson?`: the answer to an operation. -/

namespace CssFragments

namespace Json

/-- A member that has to be there, read by `f`. -/
def member? {α : Type} (j : Json) (name : String) (f : Json → Option α) : Option α :=
  (j.get? name).bind f

/-- A member that may be absent, read by `f`. -/
def optional? {α : Type} (j : Json) (name : String) (f : Json → Option α) : Option (Option α) :=
  match j.given? name with
  | none => some none
  | some v => (f v).map some

/-- A list, each item read by `f`. -/
def listOf? {α : Type} (f : Json → Option α) (j : Json) : Option (List α) :=
  j.array?.bind fun items => items.mapM f

/-- An object, each value read by `f`. -/
def mapOf? {α : Type} (f : Json → Option α) (j : Json) : Option (List (String × α)) :=
  j.members?.bind fun members => members.mapM fun m => (f m.2).map (m.1, ·)

end Json

/-! ## Places and edits -/

/-- Reads a position. -/
def Position.ofJson? (j : Json) : Option Position := do
  return ⟨← j.member? "line" Json.nat?, ← j.member? "character" Json.nat?⟩

/-- Reads a range. -/
def Range.ofJson? (j : Json) : Option Range := do
  return ⟨← j.member? "start" Position.ofJson?, ← j.member? "end" Position.ofJson?⟩

/-- Reads a location. -/
def Location.ofJson? (j : Json) : Option Location := do
  return ⟨← j.member? "uri" Json.string?, ← j.member? "range" Range.ofJson?⟩

/-- Reads an edit. -/
def TextEdit.ofJson? (j : Json) : Option TextEdit := do
  return ⟨← j.member? "range" Range.ofJson?, ← j.member? "newText" Json.string?⟩

/-- Reads an edit that may be annotated. -/
def AnnotatedEdit.ofJson? (j : Json) : Option AnnotatedEdit := do
  return ⟨← TextEdit.ofJson? j, ← j.optional? "annotationId" Json.string?⟩

/-- Reads what is done about a document in the way. -/
def CollisionOptions.ofJson? (j : Json) : Option CollisionOptions := do
  return ⟨← j.optional? "overwrite" Json.bool?, ← j.optional? "ignoreIfExists" Json.bool?⟩

/-- Reads how a document is deleted. -/
def DeletionOptions.ofJson? (j : Json) : Option DeletionOptions := do
  return ⟨← j.optional? "recursive" Json.bool?, ← j.optional? "ignoreIfNotExists" Json.bool?,
    ← j.optional? "annotationId" Json.string?⟩

/-- Reads an operation on a whole document. -/
def ResourceOperation.ofJson? (j : Json) : Option ResourceOperation := do
  match ← j.member? "kind" Json.string? with
  | "create" =>
    return .create (← j.member? "uri" Json.string?)
      (← j.optional? "options" CollisionOptions.ofJson?) (← j.optional? "annotationId" Json.string?)
  | "rename" =>
    return .rename (← j.member? "oldUri" Json.string?) (← j.member? "newUri" Json.string?)
      (← j.optional? "options" CollisionOptions.ofJson?) (← j.optional? "annotationId" Json.string?)
  | "delete" =>
    return .delete (← j.member? "uri" Json.string?)
      (← j.optional? "options" DeletionOptions.ofJson?)
  | _ => none

/-- Reads an annotation. -/
def ChangeAnnotation.ofJson? (j : Json) : Option ChangeAnnotation := do
  return ⟨← j.member? "label" Json.string?, ← j.optional? "needsConfirmation" Json.bool?,
    ← j.optional? "description" Json.string?⟩

/-- Reads a step of a change to several documents: edits if a document is named, else an operation
on a whole document. -/
def DocumentChange.ofJson? (j : Json) : Option DocumentChange :=
  match j.given? "textDocument" with
  | some document => do
    return .edits (← document.member? "uri" Json.string?) (← document.optional? "version" Json.int?)
      (← j.member? "edits" (Json.listOf? AnnotatedEdit.ofJson?))
  | none => (ResourceOperation.ofJson? j).map .resource

/-- Reads a change to several documents. -/
def WorkspaceEdit.ofJson? (j : Json) : Option WorkspaceEdit := do
  return {
    changes := ← j.optional? "changes" (Json.mapOf? (Json.listOf? TextEdit.ofJson?))
    documentChanges := ← j.optional? "documentChanges" (Json.listOf? DocumentChange.ofJson?)
    annotations := ← j.optional? "changeAnnotations" (Json.mapOf? ChangeAnnotation.ofJson?) }

/-! ## Diagnostics -/

/-- Reads the code of a diagnostic. -/
def DiagnosticCode.ofJson? : Json → Option DiagnosticCode
  | .integer n => some (.number n)
  | .string s => some (.name s)
  | _ => none

/-- Reads a related place. -/
def RelatedInformation.ofJson? (j : Json) : Option RelatedInformation := do
  return ⟨← j.member? "location" Location.ofJson?, ← j.member? "message" Json.string?⟩

/-- Reads a diagnostic. -/
def Diagnostic.ofJson? (j : Json) : Option Diagnostic := do
  return {
    range := ← j.member? "range" Range.ofJson?
    severity := (← j.optional? "severity" Json.int?).map (⟨·⟩)
    code := ← j.optional? "code" DiagnosticCode.ofJson?
    source := ← j.optional? "source" Json.string?
    message := ← j.member? "message" Json.string?
    related := ← j.optional? "relatedInformation" (Json.listOf? RelatedInformation.ofJson?)
    tags := ← j.optional? "tags" (Json.listOf? Json.int?)
    helpUri := ← j.optional? "codeDescription" fun v => v.member? "href" Json.string?
    data := j.given? "data" }

/-! ## Completions -/

/-- Reads an explanation. -/
def Documentation.ofJson? : Json → Option Documentation
  | .string s => some (.plain s)
  | j => do return .markup (← j.member? "kind" Json.string?) (← j.member? "value" Json.string?)

/-- Reads a command. -/
def Command.ofJson? (j : Json) : Option Command := do
  return ⟨← j.member? "title" Json.string?, ← j.member? "command" Json.string?,
    ← j.optional? "arguments" Json.array?⟩

/-- Reads the edit of an offered text. -/
def CompletionEdit.ofJson? (j : Json) : Option CompletionEdit :=
  match TextEdit.ofJson? j with
  | some e => some (.edit e)
  | none => do
    return .insertOrReplace (← j.member? "newText" Json.string?)
      (← j.member? "insert" Range.ofJson?) (← j.member? "replace" Range.ofJson?)

/-- Reads what is shown beside a label. -/
def LabelDetails.ofJson? (j : Json) : Option LabelDetails := do
  return ⟨← j.optional? "detail" Json.string?, ← j.optional? "description" Json.string?⟩

/-- Reads an offered text. -/
def CompletionItem.ofJson? (j : Json) : Option CompletionItem := do
  return {
    label := ← j.member? "label" Json.string?
    labelDetails := ← j.optional? "labelDetails" LabelDetails.ofJson?
    kind := (← j.optional? "kind" Json.int?).map (⟨·⟩)
    detail := ← j.optional? "detail" Json.string?
    documentation := ← j.optional? "documentation" Documentation.ofJson?
    deprecated := ← j.optional? "deprecated" Json.bool?
    preselect := ← j.optional? "preselect" Json.bool?
    sortText := ← j.optional? "sortText" Json.string?
    filterText := ← j.optional? "filterText" Json.string?
    insertText := ← j.optional? "insertText" Json.string?
    insertTextFormat := ← j.optional? "insertTextFormat" Json.int?
    insertTextMode := ← j.optional? "insertTextMode" Json.int?
    edit := ← j.optional? "textEdit" CompletionEdit.ofJson?
    additionalEdits := ← j.optional? "additionalTextEdits" (Json.listOf? TextEdit.ofJson?)
    command := ← j.optional? "command" Command.ofJson?
    commitCharacters := ← j.optional? "commitCharacters" (Json.listOf? Json.string?)
    tags := ← j.optional? "tags" (Json.listOf? Json.int?)
    data := j.given? "data" }

/-- Reads all that is offered. -/
def CompletionList.ofJson? (j : Json) : Option CompletionList := do
  return ⟨← j.member? "isIncomplete" Json.bool?,
    ← j.member? "items" (Json.listOf? CompletionItem.ofJson?)⟩

/-! ## Hovers and highlights -/

/-- Reads a text to show. -/
def MarkedText.ofJson? : Json → Option MarkedText
  | .string s => some (.plain s)
  | j => do return .code (← j.member? "language" Json.string?) (← j.member? "value" Json.string?)

/-- Reads what a hover shows. -/
def HoverContents.ofJson? (j : Json) : Option HoverContents :=
  match MarkedText.ofJson? j, Json.listOf? MarkedText.ofJson? j with
  | some t, _ => some (.one t)
  | none, some ts => some (.many ts)
  | none, none => do
    return .markup (← j.member? "kind" Json.string?) (← j.member? "value" Json.string?)

/-- Reads a hover. -/
def Hover.ofJson? (j : Json) : Option Hover := do
  return ⟨← j.member? "contents" HoverContents.ofJson?, ← j.optional? "range" Range.ofJson?⟩

/-- Reads a highlight. -/
def Highlight.ofJson? (j : Json) : Option Highlight := do
  return ⟨← j.member? "range" Range.ofJson?, (← j.optional? "kind" Json.int?).map (⟨·⟩)⟩

/-! ## Symbols -/

/-- Reads an entry of the outline without what is below it. -/
def SymbolInfo.ofJson? (j : Json) : Option SymbolInfo := do
  return {
    name := ← j.member? "name" Json.string?
    detail := ← j.optional? "detail" Json.string?
    kind := ⟨← j.member? "kind" Json.int?⟩
    tags := ← j.optional? "tags" (Json.listOf? Json.int?)
    deprecated := ← j.optional? "deprecated" Json.bool?
    range := ← j.member? "range" Range.ofJson?
    selectionRange := ← j.member? "selectionRange" Range.ofJson? }

mutual

/-- Reads an entry of the outline. -/
def Symbol.ofJson? : Json → Option Symbol
  | .object members => do
    let info ← SymbolInfo.ofJson? (.object members)
    let children ← Symbol.childrenOf? members
    return .node info children
  | _ => none
termination_by structural j => j

/-- Reads the list of entries below an entry. -/
def Symbol.ofValue? : Json → Option (Option (List Symbol))
  | .null => some none
  | .array items => (Symbol.ofItems? items).map some
  | _ => none
termination_by structural j => j

/-- Reads entries of the outline. -/
def Symbol.ofItems? : List Json → Option (List Symbol)
  | [] => some []
  | j :: rest => do
    let n ← Symbol.ofJson? j
    let ns ← Symbol.ofItems? rest
    return n :: ns
termination_by structural items => items

/-- Reads the entries below an entry from a member, if it is the one that lists them. -/
def Symbol.ofMember? : String × Json → Option (Option (Option (List Symbol)))
  | (name, v) => if name = "children" then some (Symbol.ofValue? v) else none
termination_by structural m => m

/-- Reads the entries below an entry from its members. -/
def Symbol.childrenOf? : List (String × Json) → Option (Option (List Symbol))
  | [] => some none
  | m :: rest => (Symbol.ofMember? m).getD (Symbol.childrenOf? rest)
termination_by structural members => members

end

/-! ## Colors -/

/-- Reads the four parts of a color. -/
def Channels.ofJson? (j : Json) : Option Channels := do
  return ⟨← j.member? "red" Json.single?, ← j.member? "green" Json.single?,
    ← j.member? "blue" Json.single?, ← j.member? "alpha" Json.single?⟩

/-- Reads a color in a document. -/
def ColorInformation.ofJson? (j : Json) : Option ColorInformation := do
  return ⟨← j.member? "range" Range.ofJson?, ← j.member? "color" Channels.ofJson?⟩

/-- Reads a way to write a color. -/
def ColorPresentation.ofJson? (j : Json) : Option ColorPresentation := do
  return ⟨← j.member? "label" Json.string?, ← j.optional? "textEdit" TextEdit.ofJson?,
    ← j.optional? "additionalTextEdits" (Json.listOf? TextEdit.ofJson?)⟩

/-! ## Regions -/

/-- Reads a fold. -/
def FoldingRange.ofJson? (j : Json) : Option FoldingRange := do
  return {
    startLine := ← j.member? "startLine" Json.nat?
    startCharacter := ← j.optional? "startCharacter" Json.nat?
    endLine := ← j.member? "endLine" Json.nat?
    endCharacter := ← j.optional? "endCharacter" Json.nat?
    kind := ← j.optional? "kind" Json.string?
    collapsedText := ← j.optional? "collapsedText" Json.string? }

mutual

/-- Reads ranges that are given as objects inside each other. -/
def SelectionRange.chainOf? : Json → Option (List Range)
  | .null => some []
  | .object members => do
    let range ← (Json.lookup "range" members).bind Range.ofJson?
    let parents ← SelectionRange.parentsOf? members
    return range :: parents
  | _ => none
termination_by structural j => j

/-- Reads the ranges around a range from a member, if it is the one that gives them. -/
def SelectionRange.ofMember? : String × Json → Option (Option (List Range))
  | (name, v) => if name = "parent" then some (SelectionRange.chainOf? v) else none
termination_by structural m => m

/-- Reads the ranges around a range from its members. -/
def SelectionRange.parentsOf? : List (String × Json) → Option (List Range)
  | [] => some []
  | m :: rest => (SelectionRange.ofMember? m).getD (SelectionRange.parentsOf? rest)
termination_by structural members => members

end

/-- Reads the ranges to which a selection can grow. -/
def SelectionRange.ofJson? (j : Json) : Option SelectionRange :=
  match SelectionRange.chainOf? j with
  | some (range :: parents) => some ⟨range, parents⟩
  | _ => none

/-! ## Operations -/

namespace Operation

/-- Reads the answer to an operation. -/
def answerOfJson? : (op : Operation) → Json → Option op.Answer
  | .validate, j => Json.listOf? Diagnostic.ofJson? j
  | .complete, j => CompletionList.ofJson? j
  | .hover, j => (Hover.ofJson? j).map some
  | .highlights, j => Json.listOf? Highlight.ofJson? j
  | .definition, j => (Location.ofJson? j).map some
  | .references, j => Json.listOf? Location.ofJson? j
  | .prepareRename, j => (Range.ofJson? j).map some
  | .rename, j => (WorkspaceEdit.ofJson? j).map some
  | .symbols, j => Json.listOf? Symbol.ofJson? j
  | .colors, j => Json.listOf? ColorInformation.ofJson? j
  | .presentations, j => Json.listOf? ColorPresentation.ofJson? j
  | .folding, j => Json.listOf? FoldingRange.ofJson? j
  | .selection, j => Json.listOf? SelectionRange.ofJson? j

end Operation

end CssFragments
