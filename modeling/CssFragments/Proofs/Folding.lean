import CssFragments.Proofs.Frame.Offset
import CssFragments.Proofs.Service
import CssFragments.Proofs.Tree.WellFormed
import Mathlib.Data.List.Basic

/-! # Folds of a fragment

An analyzer folds the blocks and comments of a stylesheet, and the frame is one of its blocks. What
a client is shown are the blocks and comments of the fragment: a block that starts in it, down to
the line above its end, and a comment that is in it from its start to its end. Blocks are told apart
from that of the frame by the position where they start, comments only by their lines.

* `Framed.lineAt`: the line of an offset, as the fragment counts lines.
* `Framed.FoldsBlock`, `Framed.FoldsComment`, `Framed.fold?`: what can be folded in a fragment.
* `Framed.line_positionAt`, `Framed.lineAt_le`, `Framed.lineAt_of_gt`: lines in a frame.
* `Framed.bind_blockFold?`, `Framed.bind_commentFold?`: one block and one comment.
* `Service.ask_folding_eq`: what the client is shown. -/

namespace CssFragments

namespace Framed

variable (f : Framed)

/-- The line of an offset of the stylesheet, counted from the first line of the fragment. The
closing of the frame is one line more. -/
def lineAt (b : Nat) : Nat :=
  ((f.fragment.text ++ Frame.closing).positionAt (b - f.frame.opening.byteSize)).line

/-- A block that starts in the fragment and ends at least two lines below. -/
def FoldsBlock (n : Node) : Prop :=
  (n.kind = "block" ∨ n.kind = "keyframe_block_list") ∧
    f.frame.opening.byteSize ≤ n.info.start ∧
    n.info.start ≤ f.frame.opening.byteSize + f.fragment.text.byteSize ∧
    f.lineAt n.info.start + 2 ≤ f.lineAt n.info.stop

/-- A comment that is in the fragment and has more than one line. -/
def FoldsComment (n : Node) : Prop :=
  n.kind = "comment" ∧
    f.frame.opening.byteSize ≤ n.info.start ∧
    n.info.stop ≤ f.frame.opening.byteSize + f.fragment.text.byteSize ∧
    f.lineAt n.info.start < f.lineAt n.info.stop

instance (n : Node) : Decidable (f.FoldsBlock n) :=
  inferInstanceAs (Decidable ((_ ∨ _) ∧ _ ∧ _ ∧ _))

instance (n : Node) : Decidable (f.FoldsComment n) :=
  inferInstanceAs (Decidable (_ ∧ _ ∧ _ ∧ _))

/-- The fold of a node, if it has one in the fragment. A block is folded from where it starts to
the line above its end, a comment by its lines. -/
def fold? (n : Node) : Option FoldingRange :=
  let start := f.fragment.text.positionAt (n.info.start - f.frame.opening.byteSize)
  if f.FoldsBlock n then
    some ⟨start.line, some start.character, f.lineAt n.info.stop - 1, none, none, none⟩
  else if f.FoldsComment n then
    some ⟨start.line, none, f.lineAt n.info.stop, none, some "comment", none⟩
  else none

/-! ## Lines in a frame -/

/-- From the fragment on, the lines of the opening are added. -/
theorem line_positionAt {b : Nat} (hb : f.frame.opening.byteSize ≤ b) :
    (f.sheet.text.positionAt b).line = f.shift.lines + f.lineAt b := by
  obtain ⟨k, rfl⟩ := Nat.exists_eq_add_of_le hb
  have hlines : f.frame.opening.endPosition.line = f.shift.lines :=
    congrArg Position.line f.start_shift.symm
  rw [lineAt, Nat.add_sub_cancel_left, text_sheet, Text.positionAt_append_add, Position.add_line,
    hlines]

/-- In the opening there are at most its own lines. -/
theorem line_positionAt_le {b : Nat} (hb : b ≤ f.frame.opening.byteSize) :
    (f.sheet.text.positionAt b).line ≤ f.shift.lines := by
  have hle := f.sheet.text.positionAt_le_positionAt hb
  have hstart : f.lineAt f.frame.opening.byteSize = 0 := by
    rw [lineAt, Nat.sub_self, Text.positionAt, Text.charsBefore_zero]
    rfl
  have hline := f.line_positionAt (le_refl f.frame.opening.byteSize)
  rw [hstart, Nat.add_zero] at hline
  exact hline ▸ Position.line_le_line hle

/-- In the fragment, offsets have the lines that they have without the frame. -/
theorem lineAt_of_le {b : Nat} (hb : b ≤ f.frame.opening.byteSize + f.fragment.text.byteSize) :
    f.lineAt b = (f.fragment.text.positionAt (b - f.frame.opening.byteSize)).line := by
  rw [lineAt, Text.positionAt_append_of_le _ (by omega)]

/-- The fragment has no line behind that of its end. -/
theorem lineAt_le {b : Nat} (hb : b ≤ f.frame.opening.byteSize + f.fragment.text.byteSize) :
    f.lineAt b ≤ f.fragment.text.endPosition.line := by
  rw [f.lineAt_of_le hb]
  exact Position.line_le_line (f.fragment.text.positionAt_le_endPosition _)

/-- Behind the fragment is the line of the closing. -/
theorem lineAt_of_gt {b : Nat} (hb : f.frame.opening.byteSize + f.fragment.text.byteSize < b) :
    f.lineAt b = f.fragment.text.endPosition.line + 1 := by
  obtain ⟨k, hk, hb⟩ : ∃ k, 0 < k ∧
      b - f.frame.opening.byteSize = f.fragment.text.byteSize + k :=
    ⟨b - f.frame.opening.byteSize - f.fragment.text.byteSize, by omega, by omega⟩
  have hclosing : (Frame.closing.positionAt k).line = 1 := by
    -- the line feed is read in any case, and the brace after it stays on the line
    rw [Text.positionAt, Frame.closing, Text.charsBefore, if_neg (by omega), Text.charsBefore]
    split <;> rfl
  rw [lineAt, hb, Text.positionAt_append_add, Position.add_line, hclosing]

/-! ## One node -/

/-- The line of the stylesheet that has a given number in the fragment. -/
theorem leaveLine?_add {line : Nat} (h : line ≤ f.fragment.text.endPosition.line) :
    f.shift.leaveLine? (f.shift.lines + line) = some line := by
  rw [Shift.leaveLine?, if_pos ⟨Nat.le_add_right _ _, by simpa using h⟩, Nat.add_sub_cancel_left]

/-- The lines of the fragment leave with their numbers there. -/
theorem leaveLine?_positionAt {b : Nat} (hle : f.frame.opening.byteSize ≤ b)
    (hge : b ≤ f.frame.opening.byteSize + f.fragment.text.byteSize) :
    f.shift.leaveLine? (f.sheet.text.positionAt b).line = some (f.lineAt b) := by
  rw [f.line_positionAt hle]
  exact f.leaveLine?_add (f.lineAt_le hge)

/-- The line of the closing stays outside. -/
theorem leaveLine?_positionAt_of_gt {b : Nat}
    (hgt : f.frame.opening.byteSize + f.fragment.text.byteSize < b) :
    f.shift.leaveLine? (f.sheet.text.positionAt b).line = none := by
  rw [f.line_positionAt (by omega), f.lineAt_of_gt hgt, Shift.leaveLine?, contentEnd_shift,
    if_neg (by omega)]

/-- A boundary outside the fragment has a position outside. -/
theorem leave?_positionAt_of_outside {b : Nat} (hb : f.sheet.text.IsBoundary b)
    (hout : b < f.frame.opening.byteSize ∨
      f.frame.opening.byteSize + f.fragment.text.byteSize < b) :
    f.shift.leave? (f.sheet.text.positionAt b) = none := by
  rcases hout with hlt | hgt
  · rw [Shift.leave?, f.locate_positionAt_of_lt hb hlt]
  · obtain ⟨k, rfl⟩ := Nat.exists_eq_add_of_le (show f.frame.opening.byteSize ≤ b by omega)
    rw [Shift.leave?, f.locate_positionAt_of_gt (by omega)]

/-- The line above the end of a node that starts in the fragment is in the fragment. -/
theorem lineAt_le_succ (b : Nat) : f.lineAt b ≤ f.fragment.text.endPosition.line + 1 := by
  rcases Nat.lt_or_ge (f.frame.opening.byteSize + f.fragment.text.byteSize) b with hgt | hle
  · exact le_of_eq (f.lineAt_of_gt hgt)
  · exact Nat.le_succ_of_le (f.lineAt_le hle)

variable {f} {tree : Tree} {n : Node} (hn : n.Placed f.sheet.text)

include hn in
/-- **One block.** The block of the frame starts outside the fragment. All others end on a line of
the fragment or on the line of the closing, so that the line above their end is in the fragment. -/
theorem bind_blockFold? (hkind : n.kind = "block" ∨ n.kind = "keyframe_block_list") :
    ((Sheet.mk f.sheet.text tree).blockFold? n.info).bind f.shift.foldingRange? = f.fold? n := by
  have hcomment : ¬ f.FoldsComment n := by
    rintro ⟨hcomment, -⟩
    rw [hcomment] at hkind
    simp at hkind
  rw [fold?, if_neg hcomment, Sheet.blockFold?, Sheet.rangeOf, Text.rangeAt]
  by_cases hin : f.frame.opening.byteSize ≤ n.info.start ∧
      n.info.start ≤ f.frame.opening.byteSize + f.fragment.text.byteSize
  · obtain ⟨hle, hge⟩ := hin
    have hstart := f.line_positionAt hle
    have hstop := f.line_positionAt (le_trans hle hn.start_le_stop)
    by_cases hlines : f.lineAt n.info.start + 2 ≤ f.lineAt n.info.stop
    · have hfolds : f.FoldsBlock n := ⟨hkind, hle, hge, hlines⟩
      have hend := f.lineAt_le_succ n.info.stop
      have hline : f.shift.lines + f.lineAt n.info.stop - 1 =
          f.shift.lines + (f.lineAt n.info.stop - 1) := by omega
      have hraw := f.lineAt_of_le hge
      rw [if_pos hfolds]
      dsimp only
      rw [if_neg (by omega), Option.bind_some, Shift.foldingRange?]
      simp only [Shift.foldEnd?, hstop, hline, f.leave?_positionAt hle hge,
        f.leaveLine?_add (show f.lineAt n.info.stop - 1 ≤ _ by omega), Option.map_some,
        Option.bind_eq_bind, Option.bind_some]
      rw [if_neg (by omega)]
      rfl
    · have hfolds : ¬ f.FoldsBlock n := fun h => hlines h.2.2.2
      rw [if_neg hfolds]
      dsimp only
      rw [if_pos (by omega)]
      rfl
  · have hfolds : ¬ f.FoldsBlock n := fun h => hin ⟨h.2.1, h.2.2.1⟩
    have hout := f.leave?_positionAt_of_outside hn.isBoundary_start (by omega)
    rw [if_neg hfolds]
    dsimp only
    split
    · rfl
    · simp [Shift.foldingRange?, Shift.foldEnd?, hout]

include hn in
/-- **One comment.** A comment that starts before the fragment starts on a line of its own there, or
it ends in the fragment. One that ends behind it ends on the line of the closing. -/
theorem bind_commentFold? (hkind : n.kind = "comment")
    (hopening : n.info.start < f.frame.opening.byteSize →
      n.info.stop ≤ f.frame.opening.byteSize ∨
        f.frame.opening.byteSize + f.fragment.text.byteSize < n.info.stop) :
    ((Sheet.mk f.sheet.text tree).commentFold? n.info).bind f.shift.foldingRange? = f.fold? n := by
  have hblock : ¬ f.FoldsBlock n := by
    rintro ⟨hblock, -⟩
    rw [hkind] at hblock
    simp at hblock
  rw [fold?, if_neg hblock, Sheet.commentFold?, Sheet.rangeOf, Text.rangeAt]
  by_cases hin : f.frame.opening.byteSize ≤ n.info.start ∧
      n.info.stop ≤ f.frame.opening.byteSize + f.fragment.text.byteSize
  · obtain ⟨hle, hge⟩ := hin
    have hge' := le_trans hn.start_le_stop hge
    have hstart := f.line_positionAt hle
    have hstop := f.line_positionAt (le_trans hle hn.start_le_stop)
    by_cases hlines : f.lineAt n.info.start < f.lineAt n.info.stop
    · have hfolds : f.FoldsComment n := ⟨hkind, hle, hge, hlines⟩
      rw [if_pos hfolds]
      dsimp only
      rw [if_neg (by omega), Option.bind_some, Shift.foldingRange?]
      simp only [Shift.foldEnd?, f.leaveLine?_positionAt hle hge',
        f.leaveLine?_positionAt (le_trans hle hn.start_le_stop) hge, Option.map_some,
        Option.bind_eq_bind, Option.bind_some]
      rw [if_neg (by omega), f.lineAt_of_le hge']
      rfl
    · have hfolds : ¬ f.FoldsComment n := fun h => hlines h.2.2.2
      rw [if_neg hfolds]
      dsimp only
      rw [if_pos (by omega)]
      rfl
  · have hfolds : ¬ f.FoldsComment n := fun h => hin ⟨h.2.1, h.2.2.1⟩
    rw [if_neg hfolds]
    dsimp only
    split
    · rfl
    · next hlines =>
      -- one of the two lines is outside: that of the end, or else that of the start
      rw [Option.bind_some]
      by_cases hgt : f.frame.opening.byteSize + f.fragment.text.byteSize < n.info.stop
      · simp [Shift.foldingRange?, Shift.foldEnd?, f.leaveLine?_positionAt_of_gt hgt]
      · have hlt : n.info.start < f.frame.opening.byteSize := by omega
        have hstop := f.line_positionAt_le (show n.info.stop ≤ f.frame.opening.byteSize by omega)
        have hout : f.shift.leaveLine? (f.sheet.text.positionAt n.info.start).line = none := by
          rw [Shift.leaveLine?, if_neg (by omega)]
        simp [Shift.foldingRange?, Shift.foldEnd?, hout]

include hn in
/-- **One node.** What the analyzer folds, moved into the fragment, is what can be folded there. -/
theorem bind_foldOf? (hopening : n.kind = "comment" → n.info.start < f.frame.opening.byteSize →
      n.info.stop ≤ f.frame.opening.byteSize ∨
        f.frame.opening.byteSize + f.fragment.text.byteSize < n.info.stop) :
    ((Sheet.mk f.sheet.text tree).foldOf? n).bind f.shift.foldingRange? = f.fold? n := by
  rw [Sheet.foldOf?]
  by_cases hblock : n.kind = "block" ∨ n.kind = "keyframe_block_list"
  · rw [if_pos (by simpa using hblock)]
    exact bind_blockFold? hn hblock
  · rw [if_neg (by simpa using hblock)]
    by_cases hcomment : n.kind = "comment"
    · rw [if_pos hcomment]
      exact bind_commentFold? hn hcomment (hopening hcomment)
    · rw [if_neg hcomment, fold?, if_neg fun h => hblock h.1, if_neg fun h => hcomment h.1]
      rfl

include hn in
/-- A fold has at least two lines, and all of them are in the fragment. -/
theorem lines_of_fold? {fold : FoldingRange} (h : f.fold? n = some fold) :
    fold.startLine < fold.endLine ∧ fold.endLine ≤ f.fragment.text.endPosition.line := by
  rw [fold?] at h
  split at h
  · next hblock =>
    obtain ⟨-, -, hge, hlines⟩ := hblock
    obtain rfl := Option.some.inj h
    have hend := f.lineAt_le_succ n.info.stop
    rw [f.lineAt_of_le hge] at hlines
    show _ < f.lineAt n.info.stop - 1 ∧ f.lineAt n.info.stop - 1 ≤ _
    exact ⟨Nat.lt_sub_of_add_lt hlines, Nat.sub_le_of_le_add hend⟩
  · split at h
    · next hcomment =>
      obtain ⟨-, hle, hge, hlines⟩ := hcomment
      obtain rfl := Option.some.inj h
      rw [f.lineAt_of_le (le_trans hn.start_le_stop hge)] at hlines
      exact ⟨hlines, f.lineAt_le hge⟩
    · cases h

end Framed

/-! ## What the client is shown -/

/-- **The folds of a fragment.** If the nodes of the tree are where they should be, and no comment
starts in the opening and ends in the fragment, the service answers with the folds of all blocks and
comments of the fragment, in the order of the tree, and with a limit only with the first of them.
They have at least two lines, all of them in the fragment. -/
theorem Service.ask_folding_eq {parse : Parser} (lint : Lint) {frame : Frame} {d : Document}
    {tree : Tree} (hparse : parse (Framed.mk frame d).sheet.text = some tree)
    (hplaced : ∀ n ∈ tree.root.preorder, n.Placed (Framed.mk frame d).sheet.text)
    (hopening : ∀ n ∈ tree.root.preorder, n.kind = "comment" →
      n.info.start < frame.opening.byteSize →
      n.info.stop ≤ frame.opening.byteSize ∨
        frame.opening.byteSize + d.text.byteSize < n.info.stop) :
    let folds := tree.root.preorder.filterMap (Framed.mk frame d).fold?
    (Service.mk (.css parse lint) frame).ask d .folding none = .ok folds ∧
      (∀ limit, (Service.mk (.css parse lint) frame).ask d .folding (some limit) =
        .ok (folds.take limit)) ∧
      ∀ fold ∈ folds, fold.startLine < fold.endLine ∧ fold.endLine ≤ d.text.endPosition.line := by
  intro folds
  let f : Framed := ⟨frame, d⟩
  have hfolds : (Sheet.mk f.sheet.text tree).folds.filterMap f.shift.foldingRange? = folds := by
    rw [Sheet.folds, List.filterMap_filterMap]
    exact List.filterMap_congr fun n hn => Framed.bind_foldOf? (hplaced n hn) (hopening n hn)
  have hask (limit : Option Nat) : (Service.mk (.css parse lint) frame).ask d .folding limit =
      .ok (upToLimit limit folds) := by
    have hanswer := Analyzer.answer_css_of_parse lint hparse .folding none
    rw [ask_of_answer (by decide) (Analyzer.parses_css_of_parse lint hparse) rfl hanswer]
    show Except.ok (upToLimit limit
      ((Sheet.mk f.sheet.text tree).folds.filterMap f.shift.foldingRange?)) = _
    rw [hfolds]
  refine ⟨hask none, fun limit => hask (some limit), ?_⟩
  intro fold hfold
  obtain ⟨n, hn, hnode⟩ := List.mem_filterMap.mp hfold
  exact Framed.lines_of_fold? (hplaced n hn) hnode

/-- A comment of two lines and the start of a rule, on whose line the fragment starts. -/
def Framed.foldingSample : Framed where
  frame := ⟨"/*\n*/a\x7b".toList⟩
  fragment := ⟨"untitled:1", 1, "b\x7b\nc\n\x7d\n/*\n*/".toList⟩

/-- The tree of this stylesheet: a comment, and a rule with a rule and a comment in it. -/
def Tree.foldingSample : Tree where
  pins := []
  root :=
    .node ⟨"stylesheet", true, false, false, 0, 21⟩ [
      .node ⟨"comment", true, false, false, 0, 5⟩ [],
      .node ⟨"rule_set", true, false, false, 5, 21⟩ [
        .node ⟨"selectors", true, false, false, 5, 6⟩ [],
        .node ⟨"block", true, false, false, 6, 21⟩ [
          .node ⟨"rule_set", true, false, false, 7, 13⟩ [
            .node ⟨"selectors", true, false, false, 7, 8⟩ [],
            .node ⟨"block", true, false, false, 8, 13⟩ []],
          .node ⟨"comment", true, false, false, 14, 19⟩ []]]]

/-- The comment and the block of the frame are left out, though the block starts on a line of the
fragment and ends behind it. -/
theorem Service.ask_folding_eq_sample :
    let f : Framed := .foldingSample
    let tree : Tree := .foldingSample
    let service : Service := ⟨.css (fun _ => some tree) .standard, f.frame⟩
    let folds : List FoldingRange :=
      [⟨0, some 1, 1, none, none, none⟩, ⟨3, none, 4, none, some "comment", none⟩]
    (∀ n ∈ tree.root.preorder, n.Placed f.sheet.text) ∧
      (∀ n ∈ tree.root.preorder, n.kind = "comment" →
        n.info.start < f.frame.opening.byteSize →
        n.info.stop ≤ f.frame.opening.byteSize ∨
          f.frame.opening.byteSize + f.fragment.text.byteSize < n.info.stop) ∧
      service.ask f.fragment .folding none = .ok folds ∧
      (∀ limit, service.ask f.fragment .folding (some limit) = .ok (folds.take limit)) ∧
      ∀ fold ∈ folds,
        fold.startLine < fold.endLine ∧ fold.endLine ≤ f.fragment.text.endPosition.line := by
  intro f tree service folds
  have hplaced : ∀ n ∈ tree.root.preorder, n.Placed f.sheet.text := by decide +kernel
  have hopening : ∀ n ∈ tree.root.preorder, n.kind = "comment" →
      n.info.start < f.frame.opening.byteSize →
      n.info.stop ≤ f.frame.opening.byteSize ∨
        f.frame.opening.byteSize + f.fragment.text.byteSize < n.info.stop := by decide +kernel
  have hfolds : tree.root.preorder.filterMap f.fold? = folds := by decide +kernel
  have hall := @ask_folding_eq (fun _ => some tree) .standard f.frame f.fragment tree rfl hplaced
    hopening
  rw [← hfolds]
  exact ⟨hplaced, hopening, hall⟩

end CssFragments
