import CssFragments.Proofs.Answerable
import CssFragments.Proofs.Frame.RoundTrip

/-! # What a completion replaces

Every text that is offered at a position comes with an edit that puts it in the place of the word
typed so far. The word is found by reading backwards from the position in the text of the
stylesheet, and its start is then counted back from the position itself.

At the positions of a text both agree. A position behind the end of its line stands for the end of
the line when the word is looked for, but not when its start is counted back, so that the edit is as
far behind the end of the line as the position is.

* `Sheet.edit_of_mem_itemsFor`, `Sheet.itemsFor_eq_iff`: all that is offered replaces one range.
* `Shift.map_completionItem_itemsFor`: what leaves is what is offered for the range that leaves.
* `Sheet.complete_of_isPosition`, `Sheet.complete_eq_right`: what is offered at the positions of a
  text, and behind the ends of its lines.
* `Framed.leaveRange?_wordRange`: the word before a position of the fragment.
* `Service.ask_complete_replaces`: what is replaced in a fragment.
* `Sheet.complete_clamped_iff`: whether a position is as good as the end of its line. -/

namespace CssFragments

/-! ## One range for all that is offered -/

namespace Sheet

variable {s : Sheet} {range range' : Range} {context : CompletionContext}

/-- **All that is offered replaces the same range.** -/
theorem edit_of_mem_itemsFor {item : CompletionItem} (h : item ∈ s.itemsFor range context) :
    ∃ newText, item.edit = some (.edit ⟨range, newText⟩) := by
  cases context with
  | property =>
    obtain ⟨p, -, rfl⟩ := List.mem_map.mp h
    exact ⟨_, rfl⟩
  | value name =>
    simp only [itemsFor, valueItems, List.mem_append, List.mem_map, or_assoc] at h
    rcases h with ⟨keyword, -, rfl⟩ | h | ⟨keyword, -, rfl⟩ | ⟨reference, -, rfl⟩
    · exact ⟨_, rfl⟩
    · split at h
      · obtain ⟨color, -, rfl⟩ := List.mem_map.mp h
        exact ⟨_, rfl⟩
      · cases h
    · exact ⟨_, rfl⟩
    · exact ⟨_, rfl⟩
  | reference =>
    obtain ⟨name, -, rfl⟩ := List.mem_map.mp h
    exact ⟨_, rfl⟩

/-- Something is always offered, except for references if there are no custom properties. -/
theorem itemsFor_eq_nil_iff :
    s.itemsFor range context = [] ↔ context = .reference ∧ s.customProperties = [] := by
  cases context with
  | property => simp [itemsFor, Property.table]
  | value name => simp [itemsFor, valueItems, Property.globalKeywords]
  | reference => simp [itemsFor]

/-- What is offered tells which range it replaces, as long as anything is offered. -/
theorem itemsFor_eq_iff :
    s.itemsFor range context = s.itemsFor range' context ↔
      range = range' ∨ context = .reference ∧ s.customProperties = [] := by
  constructor
  · intro h
    cases hitems : s.itemsFor range context with
    | nil => exact .inr (itemsFor_eq_nil_iff.mp hitems)
    | cons item rest =>
      have hmem : item ∈ s.itemsFor range context := by simp [hitems]
      obtain ⟨newText, hedit⟩ := edit_of_mem_itemsFor hmem
      obtain ⟨newText', hedit'⟩ := edit_of_mem_itemsFor (h ▸ hmem)
      rw [hedit] at hedit'
      simp only [Option.some.injEq, CompletionEdit.edit.injEq, TextEdit.mk.injEq] at hedit'
      exact .inl hedit'.1
  · rintro (rfl | hnone)
    · rfl
    · rw [itemsFor_eq_nil_iff.mpr hnone, itemsFor_eq_nil_iff.mpr hnone]

end Sheet

namespace Shift

variable {s : Shift} {range range' : Range}

theorem completionItem_ofLabel (h : s.leaveRange? range = some range') (label : String)
    (kind : CompletionKind) :
    s.completionItem (.ofLabel range label kind) = .ofLabel range' label kind := by
  simp [completionItem, CompletionItem.ofLabel, CompletionItem.bare, completionEdit?, textEdit?, h]

theorem completionItem_ofProperty (h : s.leaveRange? range = some range') (p : Property) :
    s.completionItem (.ofProperty range p) = .ofProperty range' p := by
  simp [completionItem, CompletionItem.ofProperty, CompletionItem.ofLabel, CompletionItem.bare,
    completionEdit?, textEdit?, h]

theorem completionItem_ofNamedColor (h : s.leaveRange? range = some range') (c : NamedColor) :
    s.completionItem (.ofNamedColor range c) = .ofNamedColor range' c := by
  simp [completionItem, CompletionItem.ofNamedColor, CompletionItem.ofLabel, CompletionItem.bare,
    completionEdit?, textEdit?, h]

theorem completionItem_ofReference (h : s.leaveRange? range = some range') (name : Text) :
    s.completionItem (.ofReference range name) = .ofReference range' name :=
  completionItem_ofLabel h _ _

/-- **What is offered leaves with its range.** Nothing else about it changes. -/
theorem map_completionItem_itemsFor (h : s.leaveRange? range = some range') (sheet : Sheet)
    (context : CompletionContext) :
    (sheet.itemsFor range context).map s.completionItem = sheet.itemsFor range' context := by
  cases context with
  | property =>
    simp [Sheet.itemsFor, Function.comp_def, completionItem_ofProperty h]
  | value name =>
    simp only [Sheet.itemsFor, Sheet.valueItems, List.map_append, List.map_map, Function.comp_def,
      apply_ite (List.map s.completionItem), List.map_nil, completionItem_ofLabel h,
      completionItem_ofNamedColor h, completionItem_ofReference h]
  | reference =>
    simp [Sheet.itemsFor, Function.comp_def, CompletionItem.ofCustomProperty,
      completionItem_ofLabel h]

end Shift

/-! ## In a stylesheet -/

/-- The range, moved to the right on its lines. -/
def Range.right (r : Range) (n : Nat) : Range :=
  ⟨⟨r.start.line, r.start.character + n⟩, ⟨r.stop.line, r.stop.character + n⟩⟩

theorem Range.right_eq_self_iff {r : Range} {n : Nat} : r.right n = r ↔ n = 0 := by
  obtain ⟨⟨l, c⟩, ⟨l', c'⟩⟩ := r
  simp [right]

namespace Sheet

variable {s : Sheet} {p : Position}

/-- **Behind the end of a line.** The word is the one before the place `q` to which the position is
moved back, but the edit is moved to the right by the characters between both. -/
theorem complete_eq_right (hline : p.line ≤ s.text.endPosition.line) {q : Position}
    (hq : (s.text.upTo p).endPosition = q) :
    s.complete p = .ok ⟨false, s.itemsFor ((s.text.wordRange q).right (p.character - q.character))
      (.ofText (s.text.upTo p).beforeLastWord)⟩ := by
  subst hq
  have hqline := Text.line_endPosition_upTo hline
  have hle := Position.le_def.mp (s.text.endPosition_upTo_le p)
  -- the start of the word, counted back from the place where it ends
  have hsline := (s.text.upTo p).line_endPosition_beforeLastWord
  have hscharacter := (s.text.upTo p).character_endPosition_beforeLastWord
  have hrange : (s.text.wordRange (s.text.upTo p).endPosition).right
        (p.character - (s.text.upTo p).endPosition.character) =
      ⟨⟨p.line, p.character - (s.text.upTo p).lastWord.length⟩, ⟨p.line, p.character⟩⟩ := by
    simp only [Text.wordRange, s.text.upTo_endPosition_upTo p, Range.right, Range.mk.injEq,
      Position.mk.injEq]
    omega
  rw [complete_eq hline, hrange]

/-- At the positions of a text, the edit replaces the word before them. -/
theorem complete_of_isPosition (hp : s.text.IsPosition p) :
    s.complete p = .ok ⟨false, s.itemsFor (s.text.wordRange p)
      (.ofText (s.text.upTo p).beforeLastWord)⟩ := by
  have hq : (s.text.upTo p).endPosition = p := by
    rw [← Text.positionAt_offsetAt_eq, Text.positionAt_offsetAt hp]
  have hstay : (s.text.wordRange p).right (p.character - p.character) = s.text.wordRange p :=
    Range.right_eq_self_iff.mpr (Nat.sub_self _)
  rw [complete_eq_right (Position.line_le_line hp.le_endPosition) hq, hstay]

end Sheet

/-! ## In a fragment -/

namespace Framed

variable (f : Framed) {p : Position}

/-- A position of the fragment is one of the stylesheet, behind the opening and the same text. -/
theorem isPosition_start_add (hp : f.fragment.text.IsPosition p) :
    f.sheet.text.IsPosition (f.shift.start + p) ∧
      f.sheet.text.upTo (f.shift.start + p) = f.frame.opening ++ f.fragment.text.upTo p := by
  obtain ⟨u, v, huv, rfl⟩ := Text.isPosition_iff.mp hp
  have hsheet : (f.frame.opening ++ u) ++ (v ++ Frame.closing) = f.sheet.text := by
    rw [text_sheet, ← huv]
    simp only [List.append_assoc]
  have hend : (f.frame.opening ++ u).endPosition = f.shift.start + u.endPosition := by
    rw [Text.endPosition_append, start_shift]
  rw [← hend, ← hsheet, ← huv, Text.upTo_append_endPosition, Text.upTo_append_endPosition]
  exact ⟨Text.isPosition_iff.mpr ⟨_, _, rfl, rfl⟩, rfl⟩

/-- **The word before a position of the fragment.** If the opening does not end with a word
character, the word of the stylesheet does not reach into it, and its range leaves as that of the
word of the fragment. -/
theorem leaveRange?_wordRange (hopening : ∀ c ∈ f.frame.opening.getLast?, isWordChar c = false)
    (hp : f.fragment.text.IsPosition p) :
    f.shift.leaveRange? (f.sheet.text.wordRange (f.shift.start + p)) =
      some (f.fragment.text.wordRange p) := by
  have hstart := (Text.isWordRange_wordRange hp).isPosition_start
  rw [Text.wordRange, (f.isPosition_start_add hp).2, Text.beforeLastWord_append hopening,
    Text.endPosition_append, ← start_shift, Shift.leaveRange?_eq_some_iff,
    Shift.leave?_eq_some_iff, Shift.leave?_eq_some_iff]
  exact ⟨⟨rfl, hstart.le_endPosition⟩, rfl, hp.le_endPosition⟩

end Framed

namespace Service

variable {parse : Parser} {lint : Lint} {frame : Frame} {d : Document} {tree : Tree} {p : Position}

/-- From a position of the fragment to what is offered there: into the stylesheet, and back with
all that is offered at the position there. -/
theorem ask_complete_eq (hparse : parse (Framed.mk frame d).sheet.text = some tree)
    (hne : d.text ≠ []) (p : Position) :
    let f : Framed := ⟨frame, d⟩
    (Service.mk (.css parse lint) frame).ask d .complete p =
      (Failure.guard (f.shift.enter p)).bind fun q =>
        (Failure.guard ((Sheet.mk f.sheet.text tree).complete q)).map f.shift.completionList := by
  intro f
  rw [ask_eq (fun _ => hne) (Analyzer.parses_css_of_parse lint hparse)]
  simp only [Analyzer.answer_css_of_parse lint hparse]
  rfl

/-- What is offered at a position of the fragment that can be entered. -/
theorem ask_complete_of_enter (hparse : parse (Framed.mk frame d).sheet.text = some tree)
    (hopening : ∀ c ∈ frame.opening.getLast?, isWordChar c = false) (hne : d.text ≠ [])
    (hp : d.text.IsPosition p) {q : Position} (henter : (Framed.mk frame d).shift.enter p = .ok q) :
    (Service.mk (.css parse lint) frame).ask d .complete p =
      .ok ⟨false, (Sheet.mk (Framed.mk frame d).sheet.text tree).itemsFor (d.text.wordRange p)
        (.ofText (frame.opening ++ (d.text.upTo p).beforeLastWord))⟩ := by
  let f : Framed := ⟨frame, d⟩
  have hq : q = f.shift.start + p := by
    rw [Shift.eq_add_of_enter henter, Framed.contentEnd_shift, min_eq_left hp.le_endPosition]
  obtain ⟨hposition, hupTo⟩ := f.isPosition_start_add hp
  rw [ask_complete_eq hparse hne, henter, hq]
  show (Failure.guard ((Sheet.mk f.sheet.text tree).complete (f.shift.start + p))).map
    f.shift.completionList = _
  rw [Sheet.complete_of_isPosition (s := ⟨f.sheet.text, tree⟩) hposition]
  show Except.ok (CompletionList.mk false (List.map f.shift.completionItem _)) = _
  rw [Shift.map_completionItem_itemsFor (f.leaveRange?_wordRange hopening hp), hupTo,
    Text.beforeLastWord_append hopening]

/-- **A completion replaces the word typed so far.** Let the opening be empty or end with a
character that no word has, and let the fragment not be empty. What is offered at a position of the
fragment is offered for one range, which ends at the position, starts on the same line and covers
the longest run of word characters before the position; each text comes with a plain edit of that
range. The question is answered if the stylesheet is not too long. -/
theorem ask_complete_replaces {parse : Parser} (lint : Lint) {frame : Frame} {d : Document}
    {tree : Tree} {p : Position} (hparse : parse (Framed.mk frame d).sheet.text = some tree)
    (hopening : ∀ c ∈ frame.opening.getLast?, isWordChar c = false) (hne : d.text ≠ [])
    (hp : d.text.IsPosition p) :
    let f : Framed := ⟨frame, d⟩
    let r := d.text.wordRange p
    let answer := (Service.mk (.css parse lint) frame).ask d .complete p
    d.text.IsWordRange p r ∧
      (f.sheet.text.length < Coordinate.bound → ∃ l, answer = .ok l) ∧
      ∀ l, answer = .ok l →
        l = ⟨false, (Sheet.mk f.sheet.text tree).itemsFor r
          (.ofText (frame.opening ++ (d.text.upTo p).beforeLastWord))⟩ ∧
        ∀ item ∈ l.items, ∃ newText, item.edit = some (.edit ⟨r, newText⟩) := by
  intro f r answer
  refine ⟨Text.isWordRange_wordRange hp, fun hsize => ?_, fun l hl => ?_⟩
  · obtain ⟨q, henter, -⟩ := f.exists_enter_leave hsize hp
    exact ⟨_, ask_complete_of_enter hparse hopening hne hp henter⟩
  · -- without an entered position there is no answer
    cases henter : f.shift.enter p with
    | error o =>
      have herror : answer = .error (.overflow o) := by
        show ask _ _ _ _ = _
        rw [ask_complete_eq hparse hne, henter]
        rfl
      rw [herror] at hl
      cases hl
    | ok q =>
      obtain rfl := Except.ok.inj
        (hl.symm.trans (ask_complete_of_enter hparse hopening hne hp henter))
      exact ⟨rfl, fun item => Sheet.edit_of_mem_itemsFor⟩

end Service

/-- The first character of the fragment is a word that touches the opening on its line: something is
offered behind it, and all of that replaces it. -/
theorem Service.ask_complete_replaces_sample :
    let f : Framed := .sample
    let tree : Tree := ⟨.sample "stylesheet" true 0 12 [], []⟩
    f.fragment.text.IsWordRange ⟨0, 1⟩ ⟨⟨0, 0⟩, ⟨0, 1⟩⟩ ∧
      ∃ l, (Service.mk (.css (fun _ => some tree) .standard) f.frame).ask f.fragment .complete
          ⟨0, 1⟩ = .ok l ∧ l.items ≠ [] ∧
        ∀ item ∈ l.items, ∃ newText, item.edit = some (.edit ⟨⟨⟨0, 0⟩, ⟨0, 1⟩⟩, newText⟩) := by
  intro f tree
  have hopening : ∀ c ∈ f.frame.opening.getLast?, isWordChar c = false := by
    rintro c ⟨⟩
    decide
  have hrange : f.fragment.text.wordRange ⟨0, 1⟩ = ⟨⟨0, 0⟩, ⟨0, 1⟩⟩ := by decide
  have hcontext : CompletionContext.ofText
      (f.frame.opening ++ (f.fragment.text.upTo ⟨0, 1⟩).beforeLastWord) ≠ .reference := by decide
  obtain ⟨hword, hanswer, hitems⟩ := @ask_complete_replaces (fun _ => some tree) .standard f.frame
    f.fragment tree ⟨0, 1⟩ rfl hopening (by decide) (by decide)
  obtain ⟨l, hl⟩ := hanswer (by decide)
  obtain ⟨rfl, hedit⟩ := hitems l hl
  rw [hrange] at hword hl hedit
  refine ⟨hword, _, hl, ?_, hedit⟩
  rw [ne_eq, Sheet.itemsFor_eq_nil_iff]
  exact fun hnil => hcontext hnil.1

/-! ## Behind the end of a line -/

namespace Sheet

/-- **Is a position as good as the end of its line?** At a position behind the end of its line the
same is offered as at the end, but in edits that are as far behind the end. So the answers agree
exactly at the positions of the text, and where nothing is offered. -/
theorem complete_clamped_iff {s : Sheet} {p : Position} (hline : s.text.IsPosition ⟨p.line, 0⟩) :
    let q := s.text.positionAt (s.text.offsetAt p)
    let context := CompletionContext.ofText (s.text.upTo p).beforeLastWord
    s.complete q = .ok ⟨false, s.itemsFor (s.text.wordRange q) context⟩ ∧
      s.complete p = .ok ⟨false,
        s.itemsFor ((s.text.wordRange q).right (p.character - q.character)) context⟩ ∧
      (s.complete p = s.complete q ↔
        s.text.IsPosition p ∨ context = .reference ∧ s.customProperties = []) := by
  intro q context
  have hq : (s.text.upTo p).endPosition = q := (s.text.positionAt_offsetAt_eq p).symm
  have hpline : p.line ≤ s.text.endPosition.line :=
    Position.line_le_line (p := ⟨p.line, 0⟩) hline.le_endPosition
  have hatq : s.complete q = .ok ⟨false, s.itemsFor (s.text.wordRange q) context⟩ := by
    have hposition := s.text.isPosition_endPosition_upTo p
    rw [hq] at hposition
    rw [complete_of_isPosition hposition, ← hq, s.text.upTo_endPosition_upTo]
  have hatp := complete_eq_right hpline hq
  refine ⟨hatq, hatp, ?_⟩
  rw [hatp, hatq, Except.ok.injEq, CompletionList.mk.injEq, and_iff_right rfl, itemsFor_eq_iff,
    Range.right_eq_self_iff, Nat.sub_eq_zero_iff_le, Text.isPosition_iff_character_le hpline, hq]

/-- A declaration on one line. -/
def declarationSample : Sheet := ⟨['x', ':', 'y'], ⟨.sample "stylesheet" true 0 3 [], []⟩⟩

/-- Far behind the end of the line, the values that are offered replace one character there; at its
end they replace the last character of the line. -/
theorem complete_clamped_iff_sample :
    let s := declarationSample
    s.text.IsPosition ⟨0, 0⟩ ∧
      s.complete ⟨0, 50⟩ = .ok ⟨false, s.itemsFor ⟨⟨0, 49⟩, ⟨0, 50⟩⟩ (.value ['x'])⟩ ∧
      s.complete ⟨0, 3⟩ = .ok ⟨false, s.itemsFor ⟨⟨0, 2⟩, ⟨0, 3⟩⟩ (.value ['x'])⟩ := by
  intro s
  have hline : s.text.IsPosition ⟨0, 0⟩ := by decide
  have hq : s.text.positionAt (s.text.offsetAt ⟨0, 50⟩) = ⟨0, 3⟩ := by decide
  have hcontext : CompletionContext.ofText (s.text.upTo ⟨0, 50⟩).beforeLastWord = .value ['x'] := by
    decide
  have hrange : s.text.wordRange ⟨0, 3⟩ = ⟨⟨0, 2⟩, ⟨0, 3⟩⟩ := by decide
  obtain ⟨hatq, hatp, -⟩ := complete_clamped_iff (s := s) (p := ⟨0, 50⟩) hline
  rw [hq, hcontext, hrange] at hatq hatp
  exact ⟨hline, hatp, hatq⟩

/-- **A position that is not as good as the end of its line.** The line of the position exists, but
what is offered there is not what is offered at the place for which it stands. -/
theorem complete_ne_clamped :
    let s := declarationSample
    s.text.IsPosition ⟨0, 0⟩ ∧
      s.complete ⟨0, 50⟩ ≠ s.complete (s.text.positionAt (s.text.offsetAt ⟨0, 50⟩)) := by
  intro s
  refine ⟨by decide, fun h => ?_⟩
  have hq : s.text.positionAt (s.text.offsetAt ⟨0, 50⟩) = ⟨0, 3⟩ := by decide
  have hcontext : ∀ p ∈ [(⟨0, 50⟩ : Position), ⟨0, 3⟩],
      CompletionContext.ofText (s.text.upTo p).beforeLastWord = .value ['x'] := by decide
  rw [hq, complete_eq_right (s := s) (p := ⟨0, 50⟩) (by decide) (q := ⟨0, 3⟩) (by decide),
    complete_of_isPosition (s := s) (p := ⟨0, 3⟩) (by decide), hcontext _ (by simp),
    hcontext _ (by simp), Except.ok.injEq, CompletionList.mk.injEq, and_iff_right rfl,
    itemsFor_eq_iff, Range.right_eq_self_iff] at h
  simp at h

end Sheet

end CssFragments
