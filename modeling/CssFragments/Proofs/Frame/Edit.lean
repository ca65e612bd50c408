import CssFragments.Frame.Results
import CssFragments.Proofs.Frame.Offset
import CssFragments.Proofs.Text.Splice

/-! # Edits in a frame

An analyzer proposes edits of the stylesheet; the client makes them in the fragment. To leave the
frame with an edit and to make it there has the same result as to make it in the stylesheet.

* `Framed.indexAt_sheet`: a position that leaves has as many characters before it as in the
  stylesheet, less those of the opening.
* `Framed.splice_sheet`: so an edit that leaves makes the same splice.
* `WorkspaceEdit.batches`: the edits of one document that belong together.
* `Framed.sheet_edit`: edits commute with the frame, one by one and together. -/

namespace CssFragments

/-! ## Edits that belong together -/

/-- The edits of a document that a step makes. -/
def DocumentChange.batch? (uri : String) : DocumentChange → Option (List TextEdit)
  | .edits target _ es => if target = uri then some (es.map (·.edit)) else none
  | .resource _ => none

/-- The edits of a document that belong together, as its entries and as its steps. -/
def WorkspaceEdit.batches (w : WorkspaceEdit) (uri : String) : List (List TextEdit) :=
  ((w.changes.getD []).filter fun entry => entry.1 = uri).map (·.2) ++
    (w.documentChanges.getD []).filterMap (·.batch? uri)

namespace Shift

/-- Annotations play no part in whether an edit leaves. -/
theorem map_edit_filterMap_annotatedEdit? (s : Shift) (es : List AnnotatedEdit) :
    (es.filterMap s.annotatedEdit?).map (·.edit) = s.textEdits (es.map (·.edit)) := by
  rw [textEdits, List.map_filterMap, List.filterMap_map]
  congr 1
  funext e
  simp only [annotatedEdit?, Function.comp, Option.map_map]
  exact Option.map_id'

theorem batch?_documentChange (s : Shift) (uri : String) (step : DocumentChange) :
    (s.documentChange uri step).batch? uri = (step.batch? uri).map s.textEdits := by
  cases step with
  | edits target version es =>
    by_cases h : target = uri
    · simp [documentChange, DocumentChange.batch?, h, map_edit_filterMap_annotatedEdit?]
    · simp [documentChange, DocumentChange.batch?, h]
  | resource operation => rfl

/-- A workspace edit leaves batch by batch. -/
theorem batches_workspaceEdit (s : Shift) (uri : String) (w : WorkspaceEdit) :
    (s.workspaceEdit uri w).batches uri = (w.batches uri).map s.textEdits := by
  have hentries (entries : List (String × List TextEdit)) :
      ((entries.map (s.documentEdits uri)).filter fun entry => entry.1 = uri).map (·.2) =
        ((entries.filter fun entry => entry.1 = uri).map (·.2)).map s.textEdits := by
    induction entries with
    | nil => rfl
    | cons entry entries ih =>
      by_cases h : entry.1 = uri
      · simp [documentEdits, h, ih]
      · simp [documentEdits, h, ih]
  have hsteps (steps : List DocumentChange) :
      (steps.map (s.documentChange uri)).filterMap (·.batch? uri) =
        (steps.filterMap (·.batch? uri)).map s.textEdits := by
    rw [List.filterMap_map, List.map_filterMap]
    congr 1
    funext step
    exact s.batch?_documentChange uri step
  obtain ⟨changes, steps, annotations⟩ := w
  rw [WorkspaceEdit.batches, WorkspaceEdit.batches, List.map_append, ← hentries, ← hsteps]
  cases changes <;> cases steps <;> rfl

end Shift

namespace Framed

/-! ## What one edit does -/

/-- A position that leaves has the characters of the opening less before it. -/
theorem indexAt_sheet (f : Framed) {p q : Position} (h : f.shift.leave? p = some q) :
    f.sheet.text.indexAt p = f.frame.opening.length + f.fragment.text.indexAt q := by
  obtain ⟨rfl, hq⟩ := Shift.leave?_eq_some_iff.mp h
  rw [start_shift, text_sheet, Text.indexAt_append_add, Text.indexAt_append_of_le _ hq]

/-- An edit that leaves makes the same splice, moved by the opening. -/
theorem splice_sheet (f : Framed) {e e' : TextEdit} (h : f.shift.textEdit? e = some e') :
    e.splice f.sheet.text = (e'.splice f.fragment.text).moved f.frame.opening.length := by
  obtain ⟨r, hr, rfl⟩ := Option.map_eq_some_iff.mp h
  obtain ⟨hstart, hstop⟩ := Shift.leaveRange?_eq_some_iff.mp hr
  simp only [TextEdit.splice, Splice.moved, f.indexAt_sheet hstart, f.indexAt_sheet hstop,
    Nat.add_max_add_left]

/-- Edits that all leave make the same splices, moved by the opening. -/
theorem map_splice_sheet (f : Framed) {es : List TextEdit}
    (h : ∀ e ∈ es, (f.shift.textEdit? e).isSome) :
    es.map (TextEdit.splice f.sheet.text) =
      ((f.shift.textEdits es).map (TextEdit.splice f.fragment.text)).map
        (Splice.moved f.frame.opening.length) := by
  induction es with
  | nil => rfl
  | cons e es ih =>
    obtain ⟨e', he'⟩ := Option.isSome_iff_exists.mp (h e List.mem_cons_self)
    rw [Shift.textEdits, List.filterMap_cons_some he', List.map_cons, List.map_cons, List.map_cons,
      f.splice_sheet he', ih fun a ha => h a (List.mem_cons_of_mem _ ha)]
    rfl

/-! ## Edits and the frame -/

/-- **Edits commute with the frame.** An edit that leaves changes the fragment so that its frame
makes of it the stylesheet that the edit itself makes. The same holds for edits that are made
together, if they all leave and do not overlap, and in a workspace edit these are moved as they
are. -/
theorem sheet_edit (f : Framed) :
    (∀ (e e' : TextEdit) (version : Int), f.shift.textEdit? e = some e' →
      (Framed.mk f.frame (f.fragment.edit [e'.change] version)).sheet =
        f.sheet.edit [e.change] version) ∧
    (∀ es : List TextEdit, (∀ e ∈ es, (f.shift.textEdit? e).isSome) →
      (es.map (TextEdit.splice f.sheet.text)).Pairwise Splice.Apart →
      ((f.shift.textEdits es).map (TextEdit.splice f.fragment.text)).Pairwise Splice.Apart ∧
        (Framed.mk f.frame { f.fragment with
          text := TextEdit.applyTogether (f.shift.textEdits es) f.fragment.text }).sheet =
        { f.sheet with text := TextEdit.applyTogether es f.sheet.text }) ∧
    ∀ w : WorkspaceEdit, (f.shift.workspaceEdit f.fragment.uri w).batches f.fragment.uri =
      (w.batches f.fragment.uri).map f.shift.textEdits := by
  refine ⟨fun e e' version h => ?_, fun es hes happart => ?_, f.shift.batches_workspaceEdit _⟩
  · have htext := (e'.splice f.fragment.text).apply_moved f.frame.opening Frame.closing
      (e'.stop_splice_le f.fragment.text)
    rw [← f.splice_sheet h, ← f.text_sheet, ← List.append_assoc] at htext
    simp only [Document.edit, Change.applyAll_cons, Change.applyAll_nil, TextEdit.apply_change]
    rw [htext]
    rfl
  · rw [f.map_splice_sheet hes, List.pairwise_map] at happart
    have hinner := happart.imp Splice.apart_moved_iff.mp
    have htext := Splice.applyAll_moved f.frame.opening Frame.closing (t := f.fragment.text) hinner
      fun e he => by
        obtain ⟨a, -, rfl⟩ := List.mem_map.mp he
        exact a.stop_splice_le _
    rw [← f.map_splice_sheet hes, ← f.text_sheet, ← List.append_assoc] at htext
    refine ⟨hinner, ?_⟩
    rw [TextEdit.applyTogether, TextEdit.applyTogether, htext]
    rfl

/-- A line feed is replaced by other text with a line feed; and together, text is inserted at the
start and a word on the second line is replaced. -/
theorem sheet_edit_sample :
    let e : TextEdit := ⟨⟨⟨1, 3⟩, ⟨2, 0⟩⟩, "x\ny"⟩
    let e' : TextEdit := ⟨⟨⟨0, 1⟩, ⟨1, 0⟩⟩, "x\ny"⟩
    let es : List TextEdit := [⟨⟨⟨1, 2⟩, ⟨1, 2⟩⟩, "\n"⟩, ⟨⟨⟨2, 0⟩, ⟨2, 1⟩⟩, "dd"⟩]
    (sample.shift.textEdit? e = some e' ∧
      (sample.fragment.edit [e'.change] 2).text = "bx\nyc".toList ∧
      (sample.sheet.edit [e.change] 2).text = "é\na\x7bbx\nyc\n\x7d".toList ∧
      (Framed.mk sample.frame (sample.fragment.edit [e'.change] 2)).sheet =
        sample.sheet.edit [e.change] 2) ∧
    TextEdit.applyTogether (sample.shift.textEdits es) sample.fragment.text =
      "\nbé\ndd".toList ∧
    TextEdit.applyTogether es sample.sheet.text = "é\na\x7b\nbé\ndd\n\x7d".toList ∧
    (Framed.mk sample.frame { sample.fragment with
        text := TextEdit.applyTogether (sample.shift.textEdits es) sample.fragment.text }).sheet =
      { sample.sheet with text := TextEdit.applyTogether es sample.sheet.text } := by
  intro e e' es
  have hleaves : sample.shift.textEdit? e = some e' := by decide
  have hall : ∀ a ∈ es, (sample.shift.textEdit? a).isSome := by decide
  have hapart : (es.map (TextEdit.splice sample.sheet.text)).Pairwise Splice.Apart := by decide
  have htext : TextEdit.applyTogether es sample.sheet.text = "é\na\x7b\nbé\ndd\n\x7d".toList := by
    rw [TextEdit.applyTogether, Splice.applyAll, List.mergeSort_of_pairwise (by decide)]
    decide
  have htext' : TextEdit.applyTogether (sample.shift.textEdits es) sample.fragment.text =
      "\nbé\ndd".toList := by
    rw [TextEdit.applyTogether, Splice.applyAll, List.mergeSort_of_pairwise (by decide)]
    decide
  obtain ⟨hone, hmany, -⟩ := sheet_edit sample
  exact ⟨⟨hleaves, by decide, by decide, hone e e' 2 hleaves⟩, htext', htext,
    (hmany es hall hapart).2⟩

end Framed

end CssFragments
