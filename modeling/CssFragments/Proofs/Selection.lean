import CssFragments.Proofs.Frame.Enter
import CssFragments.Proofs.Frame.Offset
import CssFragments.Proofs.Service
import CssFragments.Proofs.Tree.Lineage
import Mathlib.Data.List.Forall2

/-! # Selections grow step by step

A selection at a position can grow to the nodes around it, from the innermost one on. In a fragment
it stops before the rule of the frame, and if it would stop at once, it stays at the position.

* `Range.StrictlyWithin`: a range is in another one, and not the same.
* `SelectionRange.GrowsAround`: ranges around a position, each strictly in the next.
* `Sheet.pairwise_rangeOf`: the ranges of a line of descent are in each other.
* `Sheet.pairwise_collapseRepeats`: without repetitions, each is strictly in the next.
* `Shift.leaveChain_eq_filterMap`: all ranges of the fragment come before those outside.
* `Framed.growsAround_selectionRange`, `Framed.mem_chain_selectionRange`: one selection.
* `Service.ask_selection_growsAround`: what the client is shown. -/

namespace CssFragments

namespace Range

variable {r r' r'' : Range}

/-- The range is in another one that is larger. -/
def StrictlyWithin (r r' : Range) : Prop := r.Within r' ∧ r ≠ r'

theorem Within.antisymm (h : r.Within r') (h' : r'.Within r) : r = r' := by
  obtain ⟨start, stop⟩ := r
  obtain ⟨start', stop'⟩ := r'
  have hstart : start = start' := le_antisymm h'.start_le h.start_le
  have hstop : stop = stop' := le_antisymm h.stop_le h'.stop_le
  rw [hstart, hstop]

/-- What is strictly in a range is strictly in all ranges around that. -/
theorem StrictlyWithin.trans (h : r.StrictlyWithin r') (h' : r'.Within r'') :
    r.StrictlyWithin r'' := by
  refine ⟨h.1.trans h', ?_⟩
  rintro rfl
  exact h.2 (h.1.antisymm h')

end Range

/-- The ranges of a selection are in a given one and around a position, and each is strictly in
those to which it can grow. -/
structure SelectionRange.GrowsAround (content : Range) (p : Position) (s : SelectionRange) :
    Prop where
  within : ∀ r ∈ s.chain, r.Within content
  around : ∀ r ∈ s.chain, r.start ≤ p ∧ p ≤ r.stop
  grows : s.chain.Pairwise Range.StrictlyWithin

/-! ## Selections in a stylesheet -/

namespace Sheet

/-- A range is left out if it repeats the next one. -/
theorem collapseRepeats_cons (r : Range) (rest : List Range) :
    collapseRepeats (r :: rest) =
      if (collapseRepeats rest).head? = some r then collapseRepeats rest
      else r :: collapseRepeats rest := by
  rw [collapseRepeats]
  cases collapseRepeats rest with
  | nil => rfl
  | cons r' rest' =>
    by_cases h : r = r'
    · simp [h]
    · simp [h, Ne.symm h]

/-- No range is lost when repetitions are. -/
theorem mem_collapseRepeats {r : Range} {rs : List Range} : r ∈ collapseRepeats rs ↔ r ∈ rs := by
  induction rs with
  | nil => rfl
  | cons r' rest ih =>
    rw [collapseRepeats_cons, List.mem_cons, ← ih]
    split
    · next hhead =>
      have hr' := List.mem_of_head? hhead
      constructor
      · exact .inr
      · rintro (rfl | h)
        · exact hr'
        · exact h
    · rw [List.mem_cons]

/-- **Without repetitions.** Ranges that are in each other are strictly in each other after those
that repeat the one before were left out. -/
theorem pairwise_collapseRepeats {rs : List Range} (h : rs.Pairwise Range.Within) :
    (collapseRepeats rs).Pairwise Range.StrictlyWithin := by
  induction rs with
  | nil => exact .nil
  | cons r rest ih =>
    obtain ⟨hr, hrest⟩ := List.pairwise_cons.mp h
    have hstrict := ih hrest
    rw [collapseRepeats_cons]
    split
    · exact hstrict
    · next hhead =>
      refine List.pairwise_cons.mpr ⟨fun x hx => ?_, hstrict⟩
      cases hcollapse : collapseRepeats rest with
      | nil =>
        rw [hcollapse] at hx
        cases hx
      | cons r' rest' =>
        -- the next range is another one, so that it is larger, and so are those behind it
        rw [hcollapse] at hx hstrict hhead
        have hr' : r.Within r' := hr r' (mem_collapseRepeats.mp (hcollapse ▸ List.mem_cons_self))
        have hnext : r.StrictlyWithin r' := ⟨hr', fun heq => hhead (heq ▸ rfl)⟩
        rcases List.mem_cons.mp hx with rfl | hx
        · exact hnext
        · exact hnext.trans ((List.pairwise_cons.mp hstrict).1 x hx).1

/-- **The ranges of a line of descent** are in each other. -/
theorem pairwise_rangeOf (s : Sheet) (hplaced : ∀ n ∈ s.nodes, n.Placed s.text) {path : List Node}
    (h : s.tree.root.Lineage path) :
    (path.map fun n => s.rangeOf n.info).Pairwise Range.Within := by
  induction h with
  | root => exact List.pairwise_singleton _ _
  | @child c n above hc h ih =>
    have hn : n ∈ s.nodes := h.mem_preorder n List.mem_cons_self
    have hcn : (s.rangeOf c.info).Within (s.rangeOf n.info) := by
      obtain ⟨hstart, hstop⟩ := (hplaced n hn).within c hc
      have hle := (hplaced c (Node.mem_preorder_of_mem_children hn hc)).start_le_stop
      exact s.text.rangeAt_within hstart hle hstop
    rw [List.map_cons, List.map_cons] at *
    refine List.pairwise_cons.mpr ⟨List.forall_mem_cons.mpr ⟨hcn, fun r hr => ?_⟩, ih⟩
    exact hcn.trans ((List.pairwise_cons.mp ih).1 r hr)

/-- A selection grows through the ranges of the nodes around its position. -/
theorem chain_selection (s : Sheet) (p : Position) :
    (s.selection p).chain =
      collapseRepeats
        ((s.tree.nodeAt (s.text.offsetAt p)).path.map fun n => s.rangeOf n.info) := by
  have hne : collapseRepeats
      ((s.tree.nodeAt (s.text.offsetAt p)).path.map fun n => s.rangeOf n.info) ≠ [] :=
    List.ne_nil_of_mem (mem_collapseRepeats.mpr List.mem_cons_self)
  rw [selection]
  split
  · next hnil => exact absurd hnil hne
  · next hcons => exact hcons.symm

/-- The ranges to which a selection can grow are strictly in each other. -/
theorem pairwise_chain_selection (s : Sheet) (hplaced : ∀ n ∈ s.nodes, n.Placed s.text)
    (p : Position) : (s.selection p).chain.Pairwise Range.StrictlyWithin := by
  have hlineage := s.tree.lineage_nodeAt (s.text.offsetAt p)
  rw [chain_selection]
  exact pairwise_collapseRepeats (s.pairwise_rangeOf hplaced hlineage)

end Sheet

/-! ## Selections in a fragment -/

namespace Shift

variable {s : Shift}

/-- What is between two positions of the fragment is in the fragment. -/
theorem exists_leave?_of_le {p q r p' r' : Position} (hp : s.leave? p = some p')
    (hr : s.leave? r = some r') (hpq : p ≤ q) (hqr : q ≤ r) : ∃ q', s.leave? q = some q' := by
  obtain ⟨rfl, -⟩ := leave?_eq_some_iff.mp hp
  obtain ⟨rfl, hend⟩ := leave?_eq_some_iff.mp hr
  obtain ⟨q', rfl⟩ := Position.exists_eq_add_of_le (le_trans (Position.le_add _ _) hpq)
  have hq' : q' ≤ r' := (Position.add_le_add_iff_left _ _ _).mp hqr
  exact ⟨q', leave?_eq_some_iff.mpr ⟨rfl, le_trans hq' hend⟩⟩

/-- What is in a range of the fragment is in the fragment. -/
theorem exists_leaveRange?_of_within {r r' x' : Range} (h : r.Within r')
    (hr' : s.leaveRange? r' = some x') : ∃ x, s.leaveRange? r = some x := by
  obtain ⟨hstart, hstop⟩ := leaveRange?_eq_some_iff.mp hr'
  obtain ⟨start, hs⟩ :=
    exists_leave?_of_le hstart hstop h.start_le (le_trans h.start_le_stop h.stop_le)
  obtain ⟨stop, ht⟩ :=
    exists_leave?_of_le hstart hstop (le_trans h.start_le h.start_le_stop) h.stop_le
  exact ⟨⟨start, stop⟩, leaveRange?_eq_some_iff.mpr ⟨hs, ht⟩⟩

/-- A range that leaves is in the fragment. -/
theorem within_of_leaveRange? {r x : Range} (h : r.start ≤ r.stop)
    (hr : s.leaveRange? r = some x) : x.Within ⟨.origin, s.contentEnd⟩ := by
  obtain ⟨hstart, hstop⟩ := leaveRange?_eq_some_iff.mp hr
  obtain ⟨hstart, -⟩ := leave?_eq_some_iff.mp hstart
  obtain ⟨hstop, hend⟩ := leave?_eq_some_iff.mp hstop
  rw [hstart, hstop, Position.add_le_add_iff_left] at h
  exact ⟨Position.origin_le _, h, hend⟩

/-- Ranges that are strictly in each other still are in the fragment. -/
theorem strictlyWithin_of_leaveRange? {r r' x x' : Range} (h : r.StrictlyWithin r')
    (hr : s.leaveRange? r = some x) (hr' : s.leaveRange? r' = some x') :
    x.StrictlyWithin x' := by
  obtain ⟨rstart, rstop⟩ := r
  obtain ⟨rstart', rstop'⟩ := r'
  obtain ⟨hstart, hstop⟩ := leaveRange?_eq_some_iff.mp hr
  obtain ⟨hstart', hstop'⟩ := leaveRange?_eq_some_iff.mp hr'
  obtain ⟨rfl, -⟩ := leave?_eq_some_iff.mp hstart
  obtain ⟨rfl, -⟩ := leave?_eq_some_iff.mp hstop
  obtain ⟨rfl, -⟩ := leave?_eq_some_iff.mp hstart'
  obtain ⟨rfl, -⟩ := leave?_eq_some_iff.mp hstop'
  obtain ⟨hwithin, hne⟩ := h
  refine ⟨⟨?_, ?_, ?_⟩, ?_⟩
  · exact (Position.add_le_add_iff_left _ _ _).mp hwithin.start_le
  · exact (Position.add_le_add_iff_left _ _ _).mp hwithin.start_le_stop
  · exact (Position.add_le_add_iff_left _ _ _).mp hwithin.stop_le
  · rintro rfl
    exact hne rfl

/-- **Nothing inside comes after something outside.** Of ranges that are in each other, those of the
fragment are the first ones. -/
theorem leaveChain_eq_filterMap (s : Shift) {rs : List Range} (h : rs.Pairwise Range.Within) :
    s.leaveChain rs = rs.filterMap s.leaveRange? := by
  induction rs with
  | nil => rfl
  | cons r rest ih =>
    obtain ⟨hr, hrest⟩ := List.pairwise_cons.mp h
    rw [leaveChain, List.filterMap_cons]
    cases hleave : s.leaveRange? r with
    | some x => rw [ih hrest]
    | none =>
      -- a range of the fragment further out would have this one in it
      symm
      refine List.filterMap_eq_nil_iff.mpr fun r' hr' => ?_
      cases hleave' : s.leaveRange? r' with
      | none => rfl
      | some x' =>
        obtain ⟨x, hx⟩ := exists_leaveRange?_of_within (hr r' hr') hleave'
        rw [hleave] at hx
        cases hx

/-- A selection in the fragment grows through the ranges of the fragment, or stays where it is. -/
theorem chain_selectionRange (s : Shift) (p : Position) {c : SelectionRange}
    (h : c.chain.Pairwise Range.Within) :
    (s.selectionRange p c).chain =
      if c.chain.filterMap s.leaveRange? = [] then [.empty p]
      else c.chain.filterMap s.leaveRange? := by
  rw [selectionRange, s.leaveChain_eq_filterMap h]
  cases c.chain.filterMap s.leaveRange? <;> rfl

end Shift

namespace Framed

variable (f : Framed)

/-- The end of the stylesheet is outside the fragment. -/
theorem leave?_endPosition : f.shift.leave? f.sheet.text.endPosition = none := by
  have hlt : f.fragment.text.endPosition < (f.fragment.text ++ Frame.closing).endPosition :=
    Text.endPosition_lt_append _ (List.cons_ne_nil _ _)
  rw [Option.eq_none_iff_forall_ne_some]
  intro q hq
  obtain ⟨heq, hle⟩ := Shift.leave?_eq_some_iff.mp hq
  rw [text_sheet, Text.endPosition_append, start_shift] at heq
  have hsame := le_antisymm
    ((Position.add_le_add_iff_left _ _ _).mp (le_of_eq heq))
    ((Position.add_le_add_iff_left _ _ _).mp (le_of_eq heq.symm))
  rw [hsame] at hlt
  exact absurd hle (not_le.mpr hlt)

section Selection

variable {f} {tree : Tree} {p : Position}
  (hplaced : ∀ n ∈ tree.root.preorder, n.Placed f.sheet.text)
  (hroot : tree.root.info.stop = f.sheet.text.byteSize)
  (hdescent : ∀ b, (tree.nodeAt b).path = (tree.root.descend b).reverse)
  (hp : f.fragment.text.IsPosition p)

include hdescent hp in
/-- A selection at a position of the fragment grows through the nodes on the way there. -/
theorem mem_chain_selection_iff {r : Range} :
    r ∈ ((Sheet.mk f.sheet.text tree).selection (f.shift.start + p)).chain ↔
      ∃ n ∈ tree.root.descend (f.frame.opening.byteSize + f.fragment.text.offsetAt p),
        f.sheet.text.rangeAt n.info.start n.info.stop = r := by
  rw [Sheet.chain_selection, Sheet.mem_collapseRepeats, List.mem_map]
  simp only [offsetAt_start_add f hp.le_endPosition, hdescent, List.mem_reverse]
  rfl

include hroot hp in
/-- **Around the position.** A node on the way to a position of the fragment that is itself in the
fragment has the position in its range. -/
theorem around_of_leaveRange? {n : Node} {r : Range}
    (hn : n ∈ tree.root.descend (f.frame.opening.byteSize + f.fragment.text.offsetAt p))
    (hr : f.shift.leaveRange? (f.sheet.text.rangeAt n.info.start n.info.stop) = some r) :
    r.start ≤ p ∧ p ≤ r.stop := by
  obtain ⟨hstart, hstop⟩ := Shift.leaveRange?_eq_some_iff.mp hr
  rcases Node.covers_of_mem_descend hn with rfl | ⟨hbefore, hbehind⟩
  · -- the root ends with the stylesheet, behind the fragment
    have hend : f.shift.leave? (f.sheet.text.positionAt tree.root.info.stop) = none := by
      rw [hroot, Text.positionAt_byteSize]
      exact f.leave?_endPosition
    rw [show f.shift.leave? (f.sheet.text.positionAt tree.root.info.stop) = _ from hstop] at hend
    cases hend
  · obtain ⟨hstart, -⟩ := Shift.leave?_eq_some_iff.mp hstart
    obtain ⟨hstop, -⟩ := Shift.leave?_eq_some_iff.mp hstop
    have hle := f.sheet.text.positionAt_le_positionAt hbefore
    have hge := f.sheet.text.positionAt_le_positionAt hbehind
    rw [f.positionAt_of_isPosition hp] at hle hge
    constructor
    · rw [← Position.add_le_add_iff_left f.shift.start, ← hstart]
      exact hle
    · rw [← Position.add_le_add_iff_left f.shift.start, ← hstop]
      exact hge

include hplaced hroot hdescent hp in
/-- **One selection.** At a position of the fragment, a selection grows around that position, and
inside the fragment. -/
theorem growsAround_selectionRange :
    SelectionRange.GrowsAround ⟨.origin, f.fragment.text.endPosition⟩ p
      (f.shift.selectionRange p ((Sheet.mk f.sheet.text tree).selection (f.shift.start + p))) := by
  have hstrict := Sheet.pairwise_chain_selection ⟨f.sheet.text, tree⟩ hplaced (f.shift.start + p)
  have hchain := f.shift.chain_selectionRange p (hstrict.imp And.left)
  by_cases hnil : ((Sheet.mk f.sheet.text tree).selection (f.shift.start + p)).chain.filterMap
      f.shift.leaveRange? = []
  · rw [if_pos hnil] at hchain
    refine ⟨?_, ?_, ?_⟩ <;> rw [hchain]
    · exact List.forall_mem_singleton.mpr ⟨Position.origin_le p, le_rfl, hp.le_endPosition⟩
    · exact List.forall_mem_singleton.mpr ⟨le_rfl, le_rfl⟩
    · exact List.pairwise_singleton _ _
  · rw [if_neg hnil] at hchain
    refine ⟨?_, ?_, ?_⟩ <;> rw [hchain]
    · intro x hx
      obtain ⟨r, hr, hleave⟩ := List.mem_filterMap.mp hx
      obtain ⟨n, hn, rfl⟩ := (mem_chain_selection_iff hdescent hp).mp hr
      have hn' := (tree.lineage_descend _).mem_preorder n (List.mem_reverse.mpr hn)
      have hle := f.sheet.text.positionAt_le_positionAt (hplaced n hn').start_le_stop
      exact Shift.within_of_leaveRange? hle hleave
    · intro x hx
      obtain ⟨r, hr, hleave⟩ := List.mem_filterMap.mp hx
      obtain ⟨n, hn, rfl⟩ := (mem_chain_selection_iff hdescent hp).mp hr
      exact around_of_leaveRange? hroot hp hn hleave
    · refine List.Pairwise.filterMap (R := Range.StrictlyWithin) f.shift.leaveRange? ?_ hstrict
      intro r r' h x hx x' hx'
      exact Shift.strictlyWithin_of_leaveRange? h hx hx'

include hplaced hdescent hp in
/-- **No step is left out.** A selection grows to all nodes of the fragment that are on the way to
its position. -/
theorem mem_chain_selectionRange {n : Node}
    (hn : n ∈ tree.root.descend (f.frame.opening.byteSize + f.fragment.text.offsetAt p))
    (hstart : f.frame.opening.byteSize ≤ n.info.start)
    (hstop : n.info.stop ≤ f.frame.opening.byteSize + f.fragment.text.byteSize) :
    f.fragment.text.rangeAt (n.info.start - f.frame.opening.byteSize)
        (n.info.stop - f.frame.opening.byteSize) ∈
      (f.shift.selectionRange p
        ((Sheet.mk f.sheet.text tree).selection (f.shift.start + p))).chain := by
  have hn' := (tree.lineage_descend _).mem_preorder n (List.mem_reverse.mpr hn)
  have hle := (hplaced n hn').start_le_stop
  have hleave : f.shift.leaveRange? (f.sheet.text.rangeAt n.info.start n.info.stop) =
      some (f.fragment.text.rangeAt (n.info.start - f.frame.opening.byteSize)
        (n.info.stop - f.frame.opening.byteSize)) :=
    Shift.leaveRange?_eq_some_iff.mpr
      ⟨f.leave?_positionAt hstart (by omega), f.leave?_positionAt (by omega) hstop⟩
  have hmem := List.mem_filterMap.mpr
    ⟨_, (mem_chain_selection_iff hdescent hp).mpr ⟨n, hn, rfl⟩, hleave⟩
  have hstrict := Sheet.pairwise_chain_selection ⟨f.sheet.text, tree⟩ hplaced (f.shift.start + p)
  rw [f.shift.chain_selectionRange p (hstrict.imp And.left), if_neg (List.ne_nil_of_mem hmem)]
  exact hmem

end Selection

end Framed

/-! ## What the client is shown -/

/-- **Selections in a fragment.** If the nodes of the tree are where they should be, the root ends
with the stylesheet, and nodes are found on the way down to an offset, the service answers with one
selection for each position, in their order. The stylesheet has to be short enough for coordinates
of 32 bits. A selection grows around the position and inside the fragment, each range strictly in
the next. Nothing is left out to reach this: a selection grows to all nodes
of the fragment that are on the way to its position. -/
theorem Service.ask_selection_growsAround {parse : Parser} (lint : Lint) {frame : Frame}
    {d : Document} {tree : Tree}
    (hparse : parse (Framed.mk frame d).sheet.text = some tree)
    (hsize : (Framed.mk frame d).sheet.text.length < Coordinate.bound)
    (hplaced : ∀ n ∈ tree.root.preorder, n.Placed (Framed.mk frame d).sheet.text)
    (hroot : tree.root.info.stop = (Framed.mk frame d).sheet.text.byteSize)
    (hdescent : ∀ b, (tree.nodeAt b).path = (tree.root.descend b).reverse)
    {ps : List Position} (hps : ∀ p ∈ ps, d.text.IsPosition p) :
    ∃ selections, (Service.mk (.css parse lint) frame).ask d .selection ps = .ok selections ∧
      List.Forall₂ (fun p s =>
        SelectionRange.GrowsAround ⟨.origin, d.text.endPosition⟩ p s ∧
        ∀ n ∈ tree.root.descend (frame.opening.byteSize + d.text.offsetAt p),
          frame.opening.byteSize ≤ n.info.start →
          n.info.stop ≤ frame.opening.byteSize + d.text.byteSize →
          d.text.rangeAt (n.info.start - frame.opening.byteSize)
            (n.info.stop - frame.opening.byteSize) ∈ s.chain) ps selections := by
  let f : Framed := ⟨frame, d⟩
  let sheet : Sheet := ⟨f.sheet.text, tree⟩
  have henter : f.enter .selection ps = .ok (ps.map fun p => f.shift.start + p) :=
    f.mapM_enter_of_isPosition hsize hps
  have hanswer := Analyzer.answer_css_of_parse lint hparse .selection
    (ps.map fun p => f.shift.start + p)
  have hask : (Service.mk (.css parse lint) frame).ask d .selection ps =
      .ok (ps.map fun p => f.shift.selectionRange p (sheet.selection (f.shift.start + p))) := by
    rw [ask_of_answer (by decide) (Analyzer.parses_css_of_parse lint hparse) henter hanswer]
    show Except.ok (List.zipWith f.shift.selectionRange ps
      ((ps.map fun p => f.shift.start + p).map sheet.selection)) = _
    rw [List.map_map, List.zipWith_map_right, List.zipWith_self]
    rfl
  refine ⟨_, hask, ?_⟩
  rw [List.forall₂_map_right_iff, List.forall₂_same]
  intro p hp
  refine ⟨Framed.growsAround_selectionRange hplaced hroot hdescent (hps p hp), ?_⟩
  intro n hn hstart hstop
  exact Framed.mem_chain_selectionRange hplaced hdescent (hps p hp) hn hstart hstop

/-- The tree of a fragment that is one declaration of two lines, in its frame. -/
def Tree.selectionSample : Tree where
  pins := []
  root :=
    .node ⟨"stylesheet", true, false, false, 0, 12⟩ [
      .node ⟨"rule_set", true, false, false, 0, 12⟩ [
        .node ⟨"selectors", true, false, false, 0, 4⟩ [],
        .node ⟨"block", true, false, false, 4, 12⟩ [
          .node ⟨"\x7b", false, false, false, 4, 5⟩ [],
          .node ⟨"declaration", true, false, false, 5, 10⟩ [
            .node ⟨"property_name", true, false, false, 5, 8⟩ [],
            .node ⟨"plain_value", true, false, false, 9, 10⟩ []],
          .node ⟨"\x7d", false, false, false, 11, 12⟩ []]]]

/-- In the name of the declaration, a selection grows to the name and then to the declaration.
Behind the declaration there is only the block of the frame, so that it stays where it is. -/
theorem Service.ask_selection_growsAround_sample :
    let f : Framed := .sample
    let tree : Tree := .selectionSample
    let ps : List Position := [⟨0, 1⟩, ⟨1, 1⟩]
    let shown : List SelectionRange :=
      [⟨⟨⟨0, 0⟩, ⟨0, 2⟩⟩, [⟨⟨0, 0⟩, ⟨1, 1⟩⟩]⟩, .point ⟨1, 1⟩]
    (∀ n ∈ tree.root.preorder, n.Placed f.sheet.text) ∧
      (∀ p ∈ ps, f.fragment.text.IsPosition p) ∧
      (Service.mk (.css (fun _ => some tree) .standard) f.frame).ask f.fragment .selection ps =
        .ok shown ∧
      List.Forall₂ (fun p s =>
        SelectionRange.GrowsAround ⟨.origin, f.fragment.text.endPosition⟩ p s ∧
        ∀ n ∈ tree.root.descend (f.frame.opening.byteSize + f.fragment.text.offsetAt p),
          f.frame.opening.byteSize ≤ n.info.start →
          n.info.stop ≤ f.frame.opening.byteSize + f.fragment.text.byteSize →
          f.fragment.text.rangeAt (n.info.start - f.frame.opening.byteSize)
            (n.info.stop - f.frame.opening.byteSize) ∈ s.chain) ps shown := by
  intro f tree ps shown
  have hplaced : ∀ n ∈ tree.root.preorder, n.Placed f.sheet.text := by decide +kernel
  have hps : ∀ p ∈ ps, f.fragment.text.IsPosition p := by decide +kernel
  have hparse : (fun _ => some tree : Parser) f.sheet.text = some tree := rfl
  have hshown : (Service.mk (.css (fun _ => some tree) .standard) f.frame).ask f.fragment
      .selection ps = .ok shown := by decide +kernel
  obtain ⟨selections, hask, hall⟩ := @ask_selection_growsAround (fun _ => some tree) .standard
    f.frame f.fragment tree hparse (by decide) hplaced (by decide) (tree.path_nodeAt_of_pins rfl)
    ps hps
  obtain rfl : shown = selections := Except.ok.inj (hshown.symm.trans hask)
  exact ⟨hplaced, hps, hshown, hall⟩

end CssFragments
