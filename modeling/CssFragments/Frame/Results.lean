import CssFragments.Editor.Operation
import CssFragments.Frame.Shift

/-! # Results in a frame

An analyzer speaks of the stylesheet around a fragment. Its results are moved back into the
fragment, and what has no place there is left out. Ranges of other documents stay as they are.

* `Shift.textEdit?`: an edit, if its range is in the fragment; edits in lists are kept one by one.
* `Shift.diagnostics`: diagnostics are cut to the fragment.
* `Shift.completionItem`, `Shift.hover`: these stay without a range that is not in the fragment.
* `Shift.symbols`: what is below an entry outside takes its place.
* `Shift.foldingRange?`, `Shift.selectionRanges`: regions. -/

namespace CssFragments

namespace Shift

/-! ## Edits -/

/-- An edit, if its range is in the fragment (`Translator.text_edit`). -/
def textEdit? (s : Shift) (e : TextEdit) : Option TextEdit :=
  (s.leaveRange? e.range).map fun r => { e with range := r }

/-- The edits whose ranges are in the fragment. -/
def textEdits (s : Shift) (es : List TextEdit) : List TextEdit := es.filterMap s.textEdit?

/-- An annotated edit, if its range is in the fragment. -/
def annotatedEdit? (s : Shift) (e : AnnotatedEdit) : Option AnnotatedEdit :=
  (s.textEdit? e.edit).map fun t => { e with edit := t }

/-- The edits of one document; those of the fragment's own document are moved
(`text_document_edit`). -/
def documentEdits (s : Shift) (uri : String) (entry : String × List TextEdit) :
    String × List TextEdit :=
  if entry.1 = uri then (entry.1, s.textEdits entry.2) else entry

/-- A step of a change to several documents. -/
def documentChange (s : Shift) (uri : String) : DocumentChange → DocumentChange
  | .edits target version es =>
    .edits target version (if target = uri then es.filterMap s.annotatedEdit? else es)
  | .resource operation => .resource operation

/-- A change to several documents (`Translator.workspace_edit`). -/
def workspaceEdit (s : Shift) (uri : String) (w : WorkspaceEdit) : WorkspaceEdit :=
  { w with
    changes := w.changes.map fun entries => entries.map (s.documentEdits uri)
    documentChanges := w.documentChanges.map fun steps => steps.map (s.documentChange uri) }

/-! ## Diagnostics -/

/-- A related place; one in the fragment's own document is cut to the fragment. -/
def relatedInformation? (s : Shift) (uri : String) (i : RelatedInformation) :
    Option RelatedInformation :=
  if i.location.uri = uri then
    (s.clampRange? i.location.range).map fun r =>
      { i with location := { i.location with range := r } }
  else some i

/-- A diagnostic, cut to the fragment; none if it ends before the fragment. -/
def diagnostic? (s : Shift) (uri : String) (d : Diagnostic) : Option Diagnostic :=
  (s.clampRange? d.range).map fun r =>
    { d with
      range := r
      related := d.related.map fun is => is.filterMap (s.relatedInformation? uri) }

/-- Diagnostics, cut to the fragment (`Translator.diagnostics`). -/
def diagnostics (s : Shift) (uri : String) (ds : List Diagnostic) : List Diagnostic :=
  ds.filterMap (s.diagnostic? uri)

/-! ## Completions -/

/-- The edit of an offered text, if its ranges are in the fragment. -/
def completionEdit? (s : Shift) : CompletionEdit → Option CompletionEdit
  | .edit e => (s.textEdit? e).map .edit
  | .insertOrReplace newText insert replace => do
    let i ← s.leaveRange? insert
    let r ← s.leaveRange? replace
    return .insertOrReplace newText i r

/-- The text to insert, if an edit has no place in the fragment: the one given, or that of the
edit. -/
def insertText (given : Option String) (e : CompletionEdit) : Option String :=
  some (given.getD e.newText)

/-- An offered text (`completion_item`). If its edit has no place in the fragment, the text is
inserted as it is. -/
def completionItem (s : Shift) (item : CompletionItem) : CompletionItem :=
  let additional := item.additionalEdits.map s.textEdits
  match item.edit with
  | none => { item with additionalEdits := additional }
  | some e =>
    match s.completionEdit? e with
    | some e' => { item with edit := some e', additionalEdits := additional }
    | none =>
      { item with
        edit := none
        insertText := insertText item.insertText e
        additionalEdits := additional }

/-- All that is offered (`completion_list`). -/
def completionList (s : Shift) (l : CompletionList) : CompletionList :=
  { l with items := l.items.map s.completionItem }

/-! ## Places -/

/-- An explanation, without its range if that is not in the fragment (`Translator.hover`). -/
def hover (s : Shift) (h : Hover) : Hover := { h with range := h.range.bind s.leaveRange? }

/-- A highlight, if it is in the fragment (`Translator.highlights`). -/
def highlight? (s : Shift) (h : Highlight) : Option Highlight :=
  (s.leaveRange? h.range).map fun r => { h with range := r }

/-- A location; one in the fragment's own document has to be in the fragment
(`Translator.location`). -/
def location? (s : Shift) (uri : String) (l : Location) : Option Location :=
  if l.uri = uri then (s.leaveRange? l.range).map fun r => { l with range := r } else some l

/-- A color, if it is in the fragment (`Translator.colors`). -/
def colorInformation? (s : Shift) (c : ColorInformation) : Option ColorInformation :=
  (s.leaveRange? c.range).map fun r => { c with range := r }

/-- A way to write a color, with the edits that are in the fragment
(`Translator.color_presentations`). -/
def colorPresentation (s : Shift) (p : ColorPresentation) : ColorPresentation :=
  { p with
    edit := p.edit.bind s.textEdit?
    additionalEdits := p.additionalEdits.map s.textEdits }

/-! ## Symbols -/

/-- An entry of the outline, if both its ranges are in the fragment. -/
def symbolInfo? (s : Shift) (i : SymbolInfo) : Option SymbolInfo := do
  let range ← s.leaveRange? i.range
  let selectionRange ← s.leaveRange? i.selectionRange
  return { i with range := range, selectionRange := selectionRange }

/-- An entry over its children, or the children alone if it has no place in the fragment. -/
def hoist (info : Option SymbolInfo) (children : Option (List Symbol)) : List Symbol :=
  match info with
  | some i => [.node i children]
  | none => children.getD []

mutual

/-- The entries that one entry and what is below it become. -/
def symbol (s : Shift) : Symbol → List Symbol
  | .node i children => hoist (s.symbolInfo? i) (symbolsBelow s children)
termination_by structural n => n

/-- The entries below an entry, if they are listed. -/
def symbolsBelow (s : Shift) : Option (List Symbol) → Option (List Symbol)
  | none => none
  | some children => some (symbols s children)
termination_by structural children => children

/-- The entries of an outline (`Translator.document_symbols`). -/
def symbols (s : Shift) : List Symbol → List Symbol
  | [] => []
  | n :: rest => symbol s n ++ symbols s rest
termination_by structural ns => ns

end

/-! ## Regions -/

/-- One end of a fold: a position if its character is given, else a line. -/
def foldEnd? (s : Shift) (line : Nat) (character : Option Nat) : Option (Nat × Option Nat) :=
  match character with
  | some c => (s.leave? ⟨line, c⟩).map fun p => (p.line, some p.character)
  | none => (s.leaveLine? line).map (·, none)

/-- A fold, if both its ends are in the fragment and on different lines
(`Translator.folding_ranges`). -/
def foldingRange? (s : Shift) (f : FoldingRange) : Option FoldingRange := do
  let start ← s.foldEnd? f.startLine f.startCharacter
  let stop ← s.foldEnd? f.endLine f.endCharacter
  if stop.1 ≤ start.1 then none
  else
    return { f with
      startLine := start.1
      startCharacter := start.2
      endLine := stop.1
      endCharacter := stop.2 }

/-- The ranges of a chain up to the first one that is not in the fragment. -/
def leaveChain (s : Shift) : List Range → List Range
  | [] => []
  | r :: rest =>
    match s.leaveRange? r with
    | some r' => r' :: leaveChain s rest
    | none => []

/-- The ranges to which a selection at `p` can grow inside the fragment; if there are none, the
position itself (`Translator.selection_range`). -/
def selectionRange (s : Shift) (p : Position) (r : SelectionRange) : SelectionRange :=
  match s.leaveChain r.chain with
  | [] => .point p
  | range :: parents => ⟨range, parents⟩

/-- The ranges to which selections at some positions can grow (`Translator.selection_ranges`). -/
def selectionRanges (s : Shift) (ps : List Position) (rs : List SelectionRange) :
    List SelectionRange :=
  List.zipWith s.selectionRange ps rs

end Shift

end CssFragments
