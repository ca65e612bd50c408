import CssFragments.Proofs.Frame.Enter
import CssFragments.Proofs.Outline
import CssFragments.Proofs.Text.Word
import CssFragments.Proofs.Tree.Lineage

/-! # Questions that are answered

Between a question and its answer, coordinates are added and subtracted, and pieces are cut out of
the text. Only one of these steps can fail: the sum that moves a position of the first line behind
the opening. Behind it, all positions are on lines of the stylesheet, so that the word before a
cursor is never longer than what precedes the cursor on its line. What is cut out of the text is
bounded by nodes, and these cover whole characters.

* `Operation.positions`: the positions that a question is about.
* `Framed.enter_of_overflows`, `Framed.exists_enter`: which questions can be moved into the
  stylesheet, and to which positions.
* `Sheet.complete_eq`, `Sheet.exists_hover?`, `Sheet.exists_answer`: questions about the stylesheet
  are answered.
* `Service.ask_of_overflows`, `Service.exists_ask`: questions about the fragment.
* `Service.ask_fails_iff`: which of them are answered. -/

namespace CssFragments

/-- The positions that a question is about. -/
def Operation.positions : (op : Operation) → op.Argument → List Position
  | .validate, _ => []
  | .complete, p => [p]
  | .hover, p => [p]
  | .highlights, p => [p]
  | .definition, p => [p]
  | .references, (p, _) => [p]
  | .prepareRename, p => [p]
  | .rename, (p, _) => [p]
  | .symbols, _ => []
  | .colors, _ => []
  | .presentations, (_, r) => [r.start, r.stop]
  | .folding, _ => []
  | .selection, ps => ps

/-! ## Into the stylesheet -/

namespace Framed

variable (f : Framed)

/-- One position that is out of bounds is enough for a question not to be asked. -/
theorem enter_of_overflows (hsize : f.sheet.text.length < Coordinate.bound) {op : Operation}
    {arg : op.Argument} (h : ∃ p ∈ op.positions arg, f.shift.Overflows p) :
    f.enter op arg = .error .add := by
  cases op with
  | validate | symbols | colors | folding => simp [Operation.positions] at h
  | complete | hover | highlights | definition | prepareRename =>
    obtain ⟨p, hp, hout⟩ := h
    obtain rfl := List.mem_singleton.mp hp
    rw [enter, f.enter_eq hsize, if_pos hout]
  | references | rename =>
    obtain ⟨p, hp, hout⟩ := h
    obtain rfl := List.mem_singleton.mp hp
    rw [enter, f.enter_eq hsize, if_pos hout]
    rfl
  | presentations =>
    obtain ⟨color, r⟩ := arg
    rw [enter, Shift.enterRange, f.enter_eq hsize, f.enter_eq hsize]
    by_cases hstart : f.shift.Overflows r.start
    · rw [if_pos hstart]
      rfl
    · rw [if_neg hstart]
      have hstop : f.shift.Overflows r.stop := by
        simpa [Operation.positions, hstart] using h
      rw [if_pos hstop]
      rfl
  | selection =>
    rw [enter, f.mapM_enter hsize]
    exact if_pos h

/-- Without such a position, the question is asked, about the same positions in the
stylesheet. -/
theorem exists_enter (hsize : f.sheet.text.length < Coordinate.bound) {op : Operation}
    {arg : op.Argument} (h : ¬ ∃ p ∈ op.positions arg, f.shift.Overflows p) :
    ∃ arg', f.enter op arg = .ok arg' ∧
      op.positions arg' =
        (op.positions arg).map fun p => f.shift.start + min p f.shift.contentEnd := by
  cases op with
  | validate | symbols | colors => exact ⟨arg, rfl, rfl⟩
  | folding => exact ⟨none, rfl, rfl⟩
  | complete | hover | highlights | definition | prepareRename =>
    have hp : ¬ f.shift.Overflows arg := by simpa [Operation.positions] using h
    refine ⟨f.shift.start + min arg f.shift.contentEnd, ?_, rfl⟩
    rw [enter, f.enter_eq hsize, if_neg hp]
  | references | rename =>
    obtain ⟨p, x⟩ := arg
    have hp : ¬ f.shift.Overflows p := by simpa [Operation.positions] using h
    refine ⟨(f.shift.start + min p f.shift.contentEnd, x), ?_, rfl⟩
    rw [enter, f.enter_eq hsize, if_neg hp]
    rfl
  | presentations =>
    obtain ⟨color, r⟩ := arg
    obtain ⟨hstart, hstop⟩ : ¬ f.shift.Overflows r.start ∧ ¬ f.shift.Overflows r.stop := by
      simpa [Operation.positions] using h
    refine ⟨(color, ⟨f.shift.start + min r.start f.shift.contentEnd,
      f.shift.start + min r.stop f.shift.contentEnd⟩), ?_, rfl⟩
    rw [enter, Shift.enterRange, f.enter_eq hsize, f.enter_eq hsize, if_neg hstart, if_neg hstop]
    rfl
  | selection =>
    refine ⟨_, ?_, rfl⟩
    rw [enter, f.mapM_enter hsize]
    exact if_neg h

/-- Positions that were entered are on lines of the stylesheet. -/
theorem line_start_add_le (p : Position) :
    (f.shift.start + min p f.shift.contentEnd).line ≤ f.sheet.text.endPosition.line := by
  have hp : min p f.shift.contentEnd ≤ (f.fragment.text ++ Frame.closing).endPosition :=
    le_trans (min_le_right _ _) (Text.endPosition_le_of_isPrefix (List.prefix_append _ _))
  have hline := Position.line_le_line ((Position.add_le_add_iff_left f.shift.start _ _).mpr hp)
  rwa [start_shift, ← Text.endPosition_append, ← text_sheet, ← start_shift] at hline

/-- In an empty fragment all positions stand for its start. -/
theorem not_overflows_of_nil (hsize : f.sheet.text.length < Coordinate.bound)
    (h : f.fragment.text = []) (p : Position) : ¬ f.shift.Overflows p := by
  have horigin : f.fragment.text.IsPosition .origin := by
    rw [h]
    exact Text.isPosition_nil.mpr rfl
  have hend : f.shift.contentEnd = .origin := by rw [contentEnd_shift, h, Text.endPosition_nil]
  intro hout
  refine f.not_overflows_of_isPosition hsize horigin ?_
  rwa [Shift.Overflows, hend, min_eq_right (Position.origin_le _), ← hend] at hout ⊢

end Framed

/-! ## In the stylesheet -/

/-- **The word before a cursor** is not longer than what precedes the cursor on its line, as long as
the text has that line. -/
theorem Text.length_lastWord_upTo_le {t : Text} {p : Position}
    (h : p.line ≤ t.endPosition.line) : (t.upTo p).lastWord.length ≤ p.character := by
  have hword := (t.upTo p).length_lastWord_le
  have hline := line_endPosition_upTo h
  have hle := Position.le_def.mp (t.endPosition_upTo_le p)
  omega

/-- The word before a cursor starts between two characters. -/
theorem Text.isBoundary_beforeLastWord (t : Text) (p : Position) :
    t.IsBoundary (t.upTo p).beforeLastWord.byteSize := by
  refine ⟨_, (t.upTo p).lastWord ++ t.drop (t.indexAt p), ?_, rfl⟩
  rw [← List.append_assoc, beforeLastWord, lastWord, dropEndWhile_append_takeEndWhile,
    upTo_append_drop]

/-- The text of a node can be cut out. -/
theorem Node.Placed.isSome_slice? {t : Text} {n : Node} (h : n.Placed t) :
    (t.slice? n.info.start n.info.stop).isSome :=
  Text.isSome_slice? h.start_le_stop h.isBoundary_start h.isBoundary_stop

namespace Sheet

variable {s : Sheet}

/-- What follows the name in a declaration can be cut out. -/
theorem isSome_slice?_of_propertyOf? (hplaced : ∀ n ∈ s.nodes, n.Placed s.text) {n : Node}
    (hn : n ∈ s.nodes) {property : NodeInfo} (hproperty : propertyOf? n.children = some property) :
    (s.text.slice? property.stop n.info.stop).isSome := by
  obtain ⟨c, hc, rfl⟩ := exists_of_propertyOf? hproperty
  have hchild := hplaced c (Node.mem_preorder_of_mem_children hn hc)
  have hwithin := (hplaced n hn).within c hc
  exact Text.isSome_slice? hwithin.2 hchild.isBoundary_stop (hplaced n hn).isBoundary_stop

/-- On a line of the stylesheet, the start of the word before the cursor is a position. -/
theorem complete_eq {p : Position} (h : p.line ≤ s.text.endPosition.line) :
    let before := s.text.upTo p
    let range : Range := ⟨⟨p.line, p.character - before.lastWord.length⟩, p⟩
    s.complete p = .ok ⟨false, s.itemsFor range (.ofText before.beforeLastWord)⟩ := by
  intro before range
  have hsub : Coordinate.sub p.character before.lastWord.length =
      .ok (p.character - before.lastWord.length) :=
    if_pos (Text.length_lastWord_upTo_le h)
  rw [complete, hsub]
  rfl

theorem exists_declaredValue (hplaced : ∀ n ∈ s.nodes, n.Placed s.text) (name : Text) :
    ∃ value, s.declaredValue name = .ok value := by
  rw [declaredValue]
  split
  · exact ⟨none, rfl⟩
  · next n hfind =>
    split
    · exact ⟨none, rfl⟩
    · next property hproperty =>
      have hn := List.mem_of_find?_eq_some hfind
      obtain ⟨rest, hrest⟩ := Option.isSome_iff_exists.mp
        (isSome_slice?_of_propertyOf? hplaced hn hproperty)
      rw [hrest]
      exact ⟨_, rfl⟩

theorem exists_explainCustom (hplaced : ∀ n ∈ s.nodes, n.Placed s.text) (i : NodeInfo)
    (name : Text) : ∃ h, s.explainCustom i name = .ok h := by
  obtain ⟨value, hvalue⟩ := exists_declaredValue hplaced name
  rw [explainCustom, hvalue]
  exact ⟨_, rfl⟩

theorem exists_hover? (hplaced : ∀ n ∈ s.nodes, n.Placed s.text) (p : Position) :
    ∃ h, s.hover? p = .ok h := by
  rw [hover?]
  split
  · split
    · exact exists_explainCustom hplaced _ _
    · exact ⟨_, rfl⟩
  · split
    · exact exists_explainCustom hplaced _ _
    · exact ⟨_, rfl⟩
  · exact ⟨_, rfl⟩

/-- **Questions about a stylesheet** are answered if they are about positions on its lines. -/
theorem exists_answer (hplaced : ∀ n ∈ s.nodes, n.Placed s.text) (uri : String) (lint : Lint)
    {op : Operation} {arg : op.Argument}
    (hlines : ∀ p ∈ op.positions arg, p.line ≤ s.text.endPosition.line) :
    ∃ a, s.answer uri lint op arg = .ok a := by
  cases op with
  | complete =>
    rw [answer, complete_eq (hlines arg List.mem_cons_self)]
    exact ⟨_, rfl⟩
  | hover => exact exists_hover? hplaced arg
  | _ => exact ⟨_, rfl⟩

end Sheet

/-! ## Of the fragment -/

namespace Service

variable {parse : Parser} {lint : Lint} {frame : Frame} {d : Document} {tree : Tree}
  {op : Operation} {arg : op.Argument}

/-- A position that is out of bounds is all that a question can fail for. -/
theorem ask_of_overflows (hparse : parse (Framed.mk frame d).sheet.text = some tree)
    (hsize : (Framed.mk frame d).sheet.text.length < Coordinate.bound)
    (hout : ∃ p ∈ op.positions arg, (Framed.mk frame d).shift.Overflows p) :
    (Service.mk (.css parse lint) frame).ask d op arg = .error (.overflow .add) := by
  have hnonempty : op = .complete → d.text ≠ [] := by
    intro _ hnil
    obtain ⟨p, -, hp⟩ := hout
    exact (Framed.mk frame d).not_overflows_of_nil hsize hnil p hp
  rw [ask_eq hnonempty (Analyzer.parses_css_of_parse lint hparse),
    Framed.enter_of_overflows _ hsize hout]
  rfl

/-- All other questions are answered. -/
theorem exists_ask (hparse : parse (Framed.mk frame d).sheet.text = some tree)
    (hplaced : ∀ n ∈ tree.root.preorder, n.Placed (Framed.mk frame d).sheet.text)
    (hsize : (Framed.mk frame d).sheet.text.length < Coordinate.bound)
    (hout : ¬ ∃ p ∈ op.positions arg, (Framed.mk frame d).shift.Overflows p) :
    ∃ a, (Service.mk (.css parse lint) frame).ask d op arg = .ok a := by
  by_cases hempty : op = .complete ∧ d.text = []
  · obtain ⟨rfl, hnil⟩ := hempty
    exact ⟨_, ask_complete_of_nil hnil arg⟩
  · obtain ⟨arg', harg', hpositions⟩ := Framed.exists_enter _ hsize hout
    have hlines : ∀ q ∈ op.positions arg',
        q.line ≤ (Framed.mk frame d).sheet.text.endPosition.line := by
      intro q hq
      rw [hpositions] at hq
      obtain ⟨p, -, rfl⟩ := List.mem_map.mp hq
      exact (Framed.mk frame d).line_start_add_le p
    obtain ⟨a, ha⟩ := Sheet.exists_answer (s := ⟨_, tree⟩) hplaced d.uri lint hlines
    rw [ask_eq (fun hop hnil => hempty ⟨hop, hnil⟩)
      (Analyzer.parses_css_of_parse lint hparse), harg']
    show ∃ a, ((Analyzer.css parse lint).answer (Framed.mk frame d).sheet op arg').map _ = .ok a
    rw [Analyzer.answer_css_of_parse lint hparse]
    exact ⟨_, congrArg (Except.map _) ha⟩

/-- **Which questions fail.** In a stylesheet that is not too long, a question fails if and only if
it is about a position that counts as one on the first line, at which the columns of the opening
take it out of bounds. In particular, the word before a cursor never reaches beyond the start of
its line, all pieces are cut out of the text between characters, and an opening that ends with a
line feed lets no question fail. -/
theorem ask_fails_iff {parse : Parser} (lint : Lint) {frame : Frame} {d : Document} {tree : Tree}
    (hparse : parse (Framed.mk frame d).sheet.text = some tree)
    (hplaced : ∀ n ∈ tree.root.preorder, n.Placed (Framed.mk frame d).sheet.text)
    (hsize : (Framed.mk frame d).sheet.text.length < Coordinate.bound)
    (op : Operation) (arg : op.Argument) :
    let f : Framed := ⟨frame, d⟩
    let s : Sheet := ⟨f.sheet.text, tree⟩
    let answer := (Service.mk (.css parse lint) frame).ask d op arg
    ((∃ e, answer = .error e) ↔
        ∃ p ∈ op.positions arg, (min p f.contentEnd).line = 0 ∧
          Coordinate.bound ≤ (min p f.contentEnd).character + frame.columns) ∧
      (∀ e, answer = .error e → e = .overflow .add) ∧
      (∀ p q, f.shift.enter p = .ok q →
        (s.text.upTo q).lastWord.length ≤ q.character ∧
          s.text.IsBoundary (s.text.offsetAt q) ∧
          s.text.IsBoundary (s.text.upTo q).beforeLastWord.byteSize) ∧
      (∀ n ∈ s.nodes, (s.text.slice? n.info.start n.info.stop).isSome ∧
        ∀ property, Sheet.propertyOf? n.children = some property →
          (s.text.slice? property.stop n.info.stop).isSome) ∧
      (∀ u, frame.opening = u ++ ['\n'] → (∀ p ∈ op.positions arg, p.character < Coordinate.bound) →
        ∃ a, answer = .ok a) := by
  intro f s answer
  have hfails : (∃ p ∈ op.positions arg, f.shift.Overflows p) → answer = .error (.overflow .add) :=
    ask_of_overflows hparse hsize
  have hanswers : (¬ ∃ p ∈ op.positions arg, f.shift.Overflows p) → ∃ a, answer = .ok a :=
    exists_ask hparse hplaced hsize
  have hiff : (∃ e, answer = .error e) ↔ ∃ p ∈ op.positions arg, f.shift.Overflows p := by
    refine ⟨?_, fun hout => ⟨_, hfails hout⟩⟩
    rintro ⟨e, he⟩
    by_contra hout
    obtain ⟨a, ha⟩ := hanswers hout
    exact absurd (he.symm.trans ha) (by simp)
  refine ⟨hiff, ?_, ?_, ?_, ?_⟩
  · intro e he
    have hadd := hfails (hiff.mp ⟨e, he⟩)
    exact Except.error.inj (he.symm.trans hadd)
  · intro p q hq
    obtain rfl := Shift.eq_add_of_enter hq
    exact ⟨Text.length_lastWord_upTo_le (f.line_start_add_le p), Text.isBoundary_offsetAt _ _,
      Text.isBoundary_beforeLastWord _ _⟩
  · intro n hn
    exact ⟨(hplaced n hn).isSome_slice?,
      fun _ => Sheet.isSome_slice?_of_propertyOf? (s := s) hplaced hn⟩
  · intro u hu hfits
    apply hanswers
    rintro ⟨p, hp, hout⟩
    exact f.not_overflows_of_newline hsize hu (hfits p hp) hout

end Service

/-- A fragment that declares a custom property, on the line of the opening. -/
def Framed.declarationSample : Framed where
  frame := ⟨['a', '\x7b']⟩
  fragment := ⟨"untitled:1", 1, "--é:1;\n".toList⟩

/-- The tree of that fragment in its frame. -/
def Tree.declarationSample : Tree where
  pins := []
  root :=
    .sample "stylesheet" true 0 12 [
      .sample "rule_set" true 0 12 [
        .sample "selectors" true 0 1 [],
        .sample "block" true 1 12 [
          .sample "\x7b" false 1 2 [],
          .sample "declaration" true 2 9 [
            .sample "property_name" true 2 6 [],
            .sample ":" false 6 7 [],
            .sample "integer_value" true 7 8 [],
            .sample ";" false 8 9 []],
          .sample "\x7d" false 11 12 []]]]

/-- Two columns are before the fragment, so that the last two characters of a line are out of
bounds, but only on the first line. -/
theorem Service.ask_fails_iff_sample :
    let f : Framed := .declarationSample
    let tree : Tree := .declarationSample
    let s : Service := ⟨.css (fun _ => some tree) .standard, f.frame⟩
    (∀ n ∈ tree.root.preorder, n.Placed f.sheet.text) ∧
      f.sheet.text.length < Coordinate.bound ∧
      (∃ e, s.ask f.fragment .hover ⟨0, 4294967294⟩ = .error e) ∧
      ¬ (∃ e, s.ask f.fragment .hover ⟨0, 4294967293⟩ = .error e) ∧
      ¬ (∃ e, s.ask f.fragment .complete ⟨1, 4294967295⟩ = .error e) ∧
      (∃ e, s.ask f.fragment .selection [⟨1, 4294967295⟩, ⟨0, 4294967294⟩] = .error e) := by
  intro f tree s
  have hplaced : ∀ n ∈ tree.root.preorder, n.Placed f.sheet.text := by decide +kernel
  have hsize : f.sheet.text.length < Coordinate.bound := by decide +kernel
  have hfails := fun op arg => (@ask_fails_iff (fun _ => some tree) .standard f.frame f.fragment
    tree rfl hplaced hsize op arg).1
  refine ⟨hplaced, hsize, (hfails .hover _).mpr ?_, fun h => absurd ((hfails .hover _).mp h) ?_,
    fun h => absurd ((hfails .complete _).mp h) ?_, (hfails .selection _).mpr ?_⟩ <;>
    decide +kernel

end CssFragments
