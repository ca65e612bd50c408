import CssFragments.Proofs.Frame.Shift
import CssFragments.Service
import Mathlib.Data.List.Forall2

/-! # Results that leave a frame

What an analyzer says about the stylesheet is handed to the client in the coordinates of the
fragment. For each type of result it is said here what that means: which parts are kept, that their
ranges are the same places in the fragment, and that all else stays as it is.

* `Shift.holds`: both ends of a range are in the fragment.
* `Shift.Moves`: a range of the fragment is a given range of the stylesheet.
* `Selects`: a function keeps what has a property and relates it to its result; lists and options
  inherit this by `Selects.filterMap` and `Selects.bind`.
* `Shift.EditMoves`, `Shift.ItemMoves`, `Shift.WorkspaceMoves`, …: one relation for each type of
  result, and under each of them that the results of `Shift` satisfy it.
* `Framed.leave_moves`: the answers of a service. -/

namespace CssFragments

/-! ## Functions that keep a part -/

section Selects

variable {α β γ δ : Type} {p : α → Bool} {R : α → β → Prop} {f : α → Option β}

/-- The function gives a result exactly for what satisfies `p`, and what it gives is related to its
argument by `R`. -/
def Selects (p : α → Bool) (R : α → β → Prop) (f : α → Option β) : Prop :=
  ∀ a, Option.Rel R ((some a).filter p) (f a)

theorem Selects.of_pos (h : Selects p R f) {a : α} (ha : p a) : ∃ b, f a = some b ∧ R a b := by
  have hrel := h a
  rw [Option.filter_some, if_pos ha] at hrel
  cases hf : f a with
  | none =>
    rw [hf] at hrel
    cases hrel
  | some b =>
    rw [hf] at hrel
    cases hrel with
    | some hb => exact ⟨b, rfl, hb⟩

theorem Selects.of_neg (h : Selects p R f) {a : α} (ha : ¬ p a) : f a = none := by
  have hrel := h a
  rw [Option.filter_some, if_neg ha] at hrel
  cases hf : f a with
  | none => rfl
  | some b =>
    rw [hf] at hrel
    cases hrel

theorem selects_iff :
    Selects p R f ↔ ∀ a, (p a → ∃ b, f a = some b ∧ R a b) ∧ (¬ p a → f a = none) := by
  refine ⟨fun h a => ⟨h.of_pos, h.of_neg⟩, fun h a => ?_⟩
  rw [Option.filter_some]
  split
  · next ha =>
    obtain ⟨b, hb, hR⟩ := (h a).1 ha
    rw [hb]
    exact .some hR
  · next ha =>
    rw [(h a).2 ha]
    exact .none

/-- In a list, the results stand in the order of what was kept. -/
theorem Selects.filterMap (h : Selects p R f) (as : List α) :
    List.Forall₂ R (as.filter p) (as.filterMap f) := by
  induction as with
  | nil => exact .nil
  | cons a as ih =>
    by_cases ha : p a
    · obtain ⟨b, hb, hR⟩ := h.of_pos ha
      rw [List.filter_cons_of_pos ha, List.filterMap_cons_some hb]
      exact .cons hR ih
    · rw [List.filter_cons_of_neg ha, List.filterMap_cons_none (h.of_neg ha)]
      exact ih

theorem Selects.bind (h : Selects p R f) (a : Option α) : Option.Rel R (a.filter p) (a.bind f) := by
  cases a with
  | none => exact .none
  | some a => exact h a

/-- A function that works on a part of its argument and puts the result in its place. -/
theorem Selects.map (h : Selects p R f) {get : γ → α} {put : γ → β → δ} {R' : γ → δ → Prop}
    (hR : ∀ c b, R (get c) b → R' c (put c b)) :
    Selects (fun c => p (get c)) R' fun c => (f (get c)).map (put c) := by
  refine selects_iff.mpr fun c => ⟨fun hc => ?_, fun hc => ?_⟩
  · obtain ⟨b, hb, hrel⟩ := h.of_pos hc
    exact ⟨put c b, by rw [hb, Option.map_some], hR c b hrel⟩
  · rw [h.of_neg hc, Option.map_none]

theorem rel_map {g : α → β} (h : ∀ a, R a (g a)) (a : Option α) : Option.Rel R a (a.map g) := by
  cases a with
  | none => exact .none
  | some a => exact .some (h a)

theorem forall₂_map {g : α → β} (h : ∀ a, R a (g a)) (as : List α) :
    List.Forall₂ R as (as.map g) := by
  rw [List.forall₂_map_right_iff, List.forall₂_same]
  exact fun a _ => h a

end Selects

/-! ## Ranges -/

/-- Both coordinates have 32 bits, as on the wire. -/
def Position.Fits (p : Position) : Prop :=
  p.line < Coordinate.bound ∧ p.character < Coordinate.bound

/-- Both ends have coordinates of 32 bits, as on the wire. -/
def Range.Fits (r : Range) : Prop := r.start.Fits ∧ r.stop.Fits

/-- Whether a place is in the fragment. -/
def Placement.isInside : Placement → Bool
  | inside _ => true
  | _ => false

namespace Shift

/-- Whether both ends of a range are in the fragment. -/
def holds (s : Shift) (r : Range) : Bool :=
  (s.locate r.start).isInside && (s.locate r.stop).isInside

/-- The range `r'` lies in the fragment, and it becomes the range `r` of the stylesheet when it is
entered; only a range that is on no wire would be too far away for that. -/
structure Moves (s : Shift) (r r' : Range) : Prop where
  start_le : r'.start ≤ s.contentEnd
  stop_le : r'.stop ≤ s.contentEnd
  enterRange : r.Fits → s.enterRange r' = .ok r

/-- What left can be entered again. -/
theorem enter_of_leave? {s : Shift} {p q : Position} (h : s.leave? p = some q) (hp : p.Fits) :
    s.enter q = .ok p := by
  obtain ⟨rfl, hq⟩ := leave?_eq_some_iff.mp h
  obtain ⟨hline, hcharacter⟩ := hp
  rw [enter_eq_ok_iff, min_eq_left hq]
  rw [Position.add_line] at hline
  rw [Position.add_character] at hcharacter
  refine ⟨rfl, fun h0 => ?_, fun _ => ?_⟩
  · rw [if_pos h0] at hcharacter
    rwa [Nat.add_comm]
  · rwa [Nat.add_comm]

theorem isInside_locate (s : Shift) (p : Position) :
    (s.locate p).isInside = (s.leave? p).isSome := by
  rw [leave?]
  cases s.locate p <;> rfl

/-- **Ranges.** A range leaves exactly if the fragment holds it, and then it is the same place. -/
theorem selects_leaveRange? (s : Shift) : Selects s.holds s.Moves s.leaveRange? := by
  refine selects_iff.mpr fun r => ?_
  rw [holds, isInside_locate, isInside_locate]
  cases hstart : s.leave? r.start with
  | none => simp [leaveRange?, hstart]
  | some p =>
    cases hstop : s.leave? r.stop with
    | none => simp [leaveRange?, hstart, hstop]
    | some q =>
      refine ⟨fun _ => ⟨⟨p, q⟩, leaveRange?_eq_some_iff.mpr ⟨hstart, hstop⟩, ?_⟩, fun h => ?_⟩
      · refine ⟨(leave?_eq_some_iff.mp hstart).2, (leave?_eq_some_iff.mp hstop).2, fun hfits => ?_⟩
        obtain ⟨hp, hq⟩ := hfits
        rw [enterRange, enter_of_leave? hstart hp, enter_of_leave? hstop hq]
        rfl
      · simp at h

/-! ## Edits -/

/-- An edit whose range was moved, and nothing else of it. -/
def EditMoves (s : Shift) (e e' : TextEdit) : Prop :=
  s.Moves e.range e'.range ∧ e' = { e with range := e'.range }

/-- The edits that the fragment holds, in their order. -/
def EditsMove (s : Shift) (es es' : List TextEdit) : Prop :=
  List.Forall₂ s.EditMoves (es.filter fun e => s.holds e.range) es'

theorem selects_textEdit? (s : Shift) :
    Selects (fun e => s.holds e.range) s.EditMoves s.textEdit? :=
  s.selects_leaveRange?.map fun _ _ h => ⟨h, rfl⟩

theorem editsMove_textEdits (s : Shift) (es : List TextEdit) : s.EditsMove es (s.textEdits es) :=
  s.selects_textEdit?.filterMap es

/-- An annotated edit whose range was moved, and nothing else of it. -/
def AnnotatedEditMoves (s : Shift) (e e' : AnnotatedEdit) : Prop :=
  s.EditMoves e.edit e'.edit ∧ e'.annotationId = e.annotationId

theorem selects_annotatedEdit? (s : Shift) :
    Selects (fun e => s.holds e.edit.range) s.AnnotatedEditMoves s.annotatedEdit? :=
  s.selects_textEdit?.map fun _ _ h => ⟨h, rfl⟩

/-! ## Workspace edits -/

/-- The edits of one document, moved if it is the document of the fragment. -/
def EntryMoves (s : Shift) (uri : String) (entry entry' : String × List TextEdit) : Prop :=
  entry'.1 = entry.1 ∧
    if entry.1 = uri then s.EditsMove entry.2 entry'.2 else entry'.2 = entry.2

/-- A step of a workspace edit. Edits are moved if they are of the document of the fragment;
versions and operations on whole documents stay. -/
def StepMoves (s : Shift) (uri : String) : DocumentChange → DocumentChange → Prop
  | .edits target version es, .edits target' version' es' =>
    target' = target ∧ version' = version ∧
      if target = uri then
        List.Forall₂ s.AnnotatedEditMoves (es.filter fun e => s.holds e.edit.range) es'
      else es' = es
  | .resource operation, .resource operation' => operation' = operation
  | _, _ => False

/-- A workspace edit, entry by entry and step by step; its annotations stay. -/
structure WorkspaceMoves (s : Shift) (uri : String) (w w' : WorkspaceEdit) : Prop where
  changes : Option.Rel (List.Forall₂ (s.EntryMoves uri)) w.changes w'.changes
  documentChanges : Option.Rel (List.Forall₂ (s.StepMoves uri)) w.documentChanges w'.documentChanges
  annotations : w'.annotations = w.annotations

theorem entryMoves_documentEdits (s : Shift) (uri : String) (entry : String × List TextEdit) :
    s.EntryMoves uri entry (s.documentEdits uri entry) := by
  by_cases h : entry.1 = uri
  · rw [documentEdits, if_pos h]
    refine ⟨rfl, ?_⟩
    rw [if_pos h]
    exact s.editsMove_textEdits entry.2
  · rw [documentEdits, if_neg h]
    exact ⟨rfl, by rw [if_neg h]⟩

theorem stepMoves_documentChange (s : Shift) (uri : String) (step : DocumentChange) :
    s.StepMoves uri step (s.documentChange uri step) := by
  cases step with
  | edits target version es =>
    refine ⟨rfl, rfl, ?_⟩
    by_cases h : target = uri
    · rw [if_pos h, if_pos h]
      exact s.selects_annotatedEdit?.filterMap es
    · rw [if_neg h, if_neg h]
  | resource operation => rfl

theorem workspaceMoves_workspaceEdit (s : Shift) (uri : String) (w : WorkspaceEdit) :
    s.WorkspaceMoves uri w (s.workspaceEdit uri w) where
  changes := rel_map (forall₂_map (s.entryMoves_documentEdits uri)) w.changes
  documentChanges := rel_map (forall₂_map (s.stepMoves_documentChange uri)) w.documentChanges
  annotations := rfl

/-! ## Completions -/

/-- Whether all ranges of the edit of an offered text are in the fragment. -/
def holdsCompletion (s : Shift) : CompletionEdit → Bool
  | .edit e => s.holds e.range
  | .insertOrReplace _ insert replace => s.holds insert && s.holds replace

/-- The edit of an offered text, with all its ranges moved. -/
def CompletionEditMoves (s : Shift) : CompletionEdit → CompletionEdit → Prop
  | .edit e, .edit e' => s.EditMoves e e'
  | .insertOrReplace newText insert replace, .insertOrReplace newText' insert' replace' =>
    newText' = newText ∧ s.Moves insert insert' ∧ s.Moves replace replace'
  | _, _ => False

/-- An offered text. An edit that the fragment does not hold is left out, and its text is inserted
if no other was given; all that has no coordinates stays. -/
structure ItemMoves (s : Shift) (i i' : CompletionItem) : Prop where
  edit : Option.Rel s.CompletionEditMoves (i.edit.filter s.holdsCompletion) i'.edit
  insertText : i'.insertText =
    match i.edit with
    | some e => if s.holdsCompletion e then i.insertText else some (i.insertText.getD e.newText)
    | none => i.insertText
  additionalEdits : Option.Rel s.EditsMove i.additionalEdits i'.additionalEdits
  rest : i' = { i with
    edit := i'.edit, insertText := i'.insertText, additionalEdits := i'.additionalEdits }

theorem selects_completionEdit? (s : Shift) :
    Selects s.holdsCompletion s.CompletionEditMoves s.completionEdit? := by
  refine selects_iff.mpr fun e => ?_
  cases e with
  | edit e =>
    refine ⟨fun h => ?_, fun h => ?_⟩
    · obtain ⟨e', he', hmoves⟩ := s.selects_textEdit?.of_pos h
      exact ⟨.edit e', by rw [completionEdit?, he', Option.map_some], hmoves⟩
    · rw [completionEdit?, s.selects_textEdit?.of_neg h, Option.map_none]
  | insertOrReplace newText insert replace =>
    simp only [holdsCompletion, Bool.and_eq_true]
    refine ⟨fun h => ?_, fun h => ?_⟩
    · obtain ⟨i, hi, hinsert⟩ := s.selects_leaveRange?.of_pos h.1
      obtain ⟨r, hr, hreplace⟩ := s.selects_leaveRange?.of_pos h.2
      exact ⟨.insertOrReplace newText i r, by simp [completionEdit?, hi, hr], rfl, hinsert,
        hreplace⟩
    · by_cases hinsert : s.holds insert
      · have hreplace := s.selects_leaveRange?.of_neg fun hreplace => h ⟨hinsert, hreplace⟩
        simp [completionEdit?, hreplace]
      · simp [completionEdit?, s.selects_leaveRange?.of_neg hinsert]

theorem itemMoves_completionItem (s : Shift) (i : CompletionItem) :
    s.ItemMoves i (s.completionItem i) := by
  have hadditional := rel_map s.editsMove_textEdits i.additionalEdits
  have hedit := s.selects_completionEdit?.bind i.edit
  unfold completionItem
  cases hi : i.edit with
  | none => exact ⟨by rw [hi]; exact .none, by rw [hi], hadditional, rfl⟩
  | some e =>
    rw [hi, Option.bind_some] at hedit
    by_cases he : s.holdsCompletion e
    · obtain ⟨e', he', -⟩ := s.selects_completionEdit?.of_pos he
      rw [he'] at hedit
      simp only [he']
      exact ⟨by rw [hi]; exact hedit, by simp [hi, he], hadditional, rfl⟩
    · have hnone := s.selects_completionEdit?.of_neg he
      rw [hnone] at hedit
      simp only [hnone]
      exact ⟨by rw [hi]; exact hedit, by simp [hi, he, Shift.insertText], hadditional, rfl⟩

/-! ## Places and colors -/

/-- An explanation, without its range if the fragment does not hold it. -/
def HoverMoves (s : Shift) (h h' : Hover) : Prop :=
  h'.contents = h.contents ∧ Option.Rel s.Moves (h.range.filter s.holds) h'.range

/-- A highlight whose range was moved, and nothing else of it. -/
def HighlightMoves (s : Shift) (h h' : Highlight) : Prop :=
  s.Moves h.range h'.range ∧ h' = { h with range := h'.range }

/-- Whether a location is in another document or in the fragment. -/
def holdsLocation (s : Shift) (uri : String) (l : Location) : Bool :=
  l.uri != uri || s.holds l.range

/-- A location, moved if it is in the document of the fragment. -/
def LocationMoves (s : Shift) (uri : String) (l l' : Location) : Prop :=
  if l.uri = uri then s.Moves l.range l'.range ∧ l' = { l with range := l'.range } else l' = l

/-- A color whose range was moved, and nothing else of it. -/
def ColorMoves (s : Shift) (c c' : ColorInformation) : Prop :=
  s.Moves c.range c'.range ∧ c' = { c with range := c'.range }

/-- A way to write a color, with those of its edits that the fragment holds. -/
structure PresentationMoves (s : Shift) (p p' : ColorPresentation) : Prop where
  label : p'.label = p.label
  edit : Option.Rel s.EditMoves (p.edit.filter fun e => s.holds e.range) p'.edit
  additionalEdits : Option.Rel s.EditsMove p.additionalEdits p'.additionalEdits

theorem selects_highlight? (s : Shift) :
    Selects (fun h => s.holds h.range) s.HighlightMoves s.highlight? :=
  s.selects_leaveRange?.map fun _ _ h => ⟨h, rfl⟩

theorem selects_colorInformation? (s : Shift) :
    Selects (fun c => s.holds c.range) s.ColorMoves s.colorInformation? :=
  s.selects_leaveRange?.map fun _ _ h => ⟨h, rfl⟩

theorem selects_location? (s : Shift) (uri : String) :
    Selects (s.holdsLocation uri) (s.LocationMoves uri) (s.location? uri) := by
  refine selects_iff.mpr fun l => ?_
  by_cases hl : l.uri = uri
  · simp only [holdsLocation, location?, LocationMoves, hl, bne_self_eq_false, Bool.false_or,
      if_true]
    refine ⟨fun h => ?_, fun h => ?_⟩
    · obtain ⟨r, hr, hmoves⟩ := s.selects_leaveRange?.of_pos h
      exact ⟨_, by rw [hr, Option.map_some], hmoves, rfl⟩
    · rw [s.selects_leaveRange?.of_neg h, Option.map_none]
  · simp [holdsLocation, location?, LocationMoves, hl]

theorem presentationMoves_colorPresentation (s : Shift) (p : ColorPresentation) :
    s.PresentationMoves p (s.colorPresentation p) where
  label := rfl
  edit := s.selects_textEdit?.bind p.edit
  additionalEdits := rel_map s.editsMove_textEdits p.additionalEdits

end Shift

/-! ## Answers -/

/-- **Every coordinate that is handed back is one of the fragment.** Whatever ranges an analyzer
reports, those of the fragment's own document that are handed back lie in the fragment and become
the reported ones when they are entered. Highlights, locations, colors and edits are left out
exactly if an end of one of their ranges is not in the fragment; explanations, offered texts and
ways to write a color are always kept. All that has no coordinates and all that belongs to other
documents stays, and so does the order. -/
theorem Framed.leave_moves (f : Framed) :
    (∀ p l, (f.leave .complete p l).isIncomplete = l.isIncomplete ∧
      List.Forall₂ f.shift.ItemMoves l.items (f.leave .complete p l).items) ∧
    (∀ p h, Option.Rel f.shift.HoverMoves h (f.leave .hover p h)) ∧
    (∀ p hs, List.Forall₂ f.shift.HighlightMoves (hs.filter fun h => f.shift.holds h.range)
      (f.leave .highlights p hs)) ∧
    (∀ p l, Option.Rel (f.shift.LocationMoves f.fragment.uri)
      (l.filter (f.shift.holdsLocation f.fragment.uri)) (f.leave .definition p l)) ∧
    (∀ p ls, List.Forall₂ (f.shift.LocationMoves f.fragment.uri)
      (ls.filter (f.shift.holdsLocation f.fragment.uri)) (f.leave .references p ls)) ∧
    (∀ p w, Option.Rel (f.shift.WorkspaceMoves f.fragment.uri) w (f.leave .rename p w)) ∧
    (∀ u cs, List.Forall₂ f.shift.ColorMoves (cs.filter fun c => f.shift.holds c.range)
      (f.leave .colors u cs)) ∧
    ∀ c ps, List.Forall₂ f.shift.PresentationMoves ps (f.leave .presentations c ps) := by
  refine ⟨fun p l => ⟨rfl, ?_⟩, fun p h => ?_, fun p hs => ?_, fun p l => ?_, fun p ls => ?_,
    fun p w => ?_, fun u cs => ?_, fun c ps => ?_⟩
  · exact forall₂_map f.shift.itemMoves_completionItem l.items
  · exact rel_map (fun h => ⟨rfl, f.shift.selects_leaveRange?.bind h.range⟩) h
  · exact f.shift.selects_highlight?.filterMap hs
  · exact (f.shift.selects_location? f.fragment.uri).bind l
  · exact (f.shift.selects_location? f.fragment.uri).filterMap ls
  · exact rel_map (f.shift.workspaceMoves_workspaceEdit f.fragment.uri) w
  · exact f.shift.selects_colorInformation?.filterMap cs
  · exact forall₂_map f.shift.presentationMoves_colorPresentation ps

end CssFragments
