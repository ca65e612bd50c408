import CssFragments.Proofs.Answerable
import CssFragments.Proofs.Diagnosis
import CssFragments.Proofs.Text.LineEdit
import CssFragments.Proofs.Tree.Outermost

/-! # Syntax errors

A node that the parser could not make sense of, or had to put in, is reported if it is below no
other such node. The report covers the node, or only the first line of it: an error may take up the
rest of the text. That line is looked up in the whole text by its number, and it ends before the
carriage returns at its end. If the node starts behind these, the report would end before it starts;
this does not happen to a node that starts with any other character.

What else is reported of a declaration waits for the syntax: a declaration with a syntax error in it
is never said to set an unknown property.

* `Text.headline`: the first line of a text, without the carriage returns at its end.
* `Sheet.lineEnd_eq`, `Sheet.firstLineRange_eq`: the first line of a node.
* `Sheet.IsFlawed`, `Sheet.diagnoseNode_eq_nil_iff`: when nothing is reported.
* `Sheet.IsChecked`: the declarations that get as far as the check.
* `Sheet.filter_syntaxError`, `Sheet.filter_unknownProperty_walk`: the reports of either kind.
* `Sheet.diagnostics_syntaxErrors`: all syntax errors, and where they are. -/

namespace CssFragments

/-! ## The first line of a node -/

namespace Text

/-- The first line of a text, without the carriage returns at its end. -/
def headline (t : Text) : Text := dropEndWhile (t.takeWhile (· ≠ '\n')) (· == '\r')

theorem headline_isPrefix (t : Text) : t.headline <+: t :=
  (List.rdropWhile_prefix _ _).trans (List.takeWhile_prefix _)

theorem newline_notMem_headline (t : Text) : '\n' ∉ t.headline := by
  intro h
  have hline := (List.rdropWhile_prefix _ _).mem h
  simpa using List.mem_takeWhile_imp hline

/-- The first line of a text that goes on behind it is the first one of all that follows. -/
theorem takeWhile_eq_of_append_eq_ofLines {w v y : Text} {bs : List Text} (hw : '\n' ∈ w)
    (h : w ++ v = ofLines (y :: bs)) (hy : '\n' ∉ y) : w.takeWhile (· ≠ '\n') = y := by
  obtain ⟨first, rest, rfl, hfirst⟩ := List.eq_append_cons_of_mem hw
  have hall (l : Text) (hl : '\n' ∉ l) (r : Text) : (l ++ '\n' :: r).takeWhile (· ≠ '\n') = l := by
    rw [List.takeWhile_append_of_pos]
    · simp
    · intro c hc
      exact decide_eq_true fun hc' => hl (hc' ▸ hc)
  cases bs with
  | nil =>
    -- all of it would be one line
    rw [ofLines_singleton] at h
    exact absurd (h ▸ by simp) hy
  | cons b bs =>
    rw [ofLines_cons_of_ne_nil _ (List.cons_ne_nil _ _), List.append_assoc, List.cons_append] at h
    rw [hall first hfirst rest, ← hall y hy (ofLines (b :: bs)), ← h, hall first hfirst]

/-- Carriage returns are dropped from the end of a line up to the first other character of what is
last on it. -/
theorem dropEndWhile_append_of_head {p : Char → Bool} (s : Text) {t : Text}
    (hne : t ≠ []) (hhead : ∀ c ∈ t.head?, p c = false) :
    (s ++ t).dropEndWhile p = s ++ t.dropEndWhile p := by
  obtain ⟨c, t, rfl⟩ := List.exists_cons_of_ne_nil hne
  have hc : p c = false := hhead c rfl
  have hlast (u : Text) : ∀ d ∈ (u ++ [c]).getLast?, p d = false := by
    intro d hd
    obtain rfl : c = d := by simpa using hd
    exact hc
  have hsplit (u : Text) : dropEndWhile (u ++ c :: t) p = u ++ c :: dropEndWhile t p := by
    have h := dropEndWhile_append (hlast u) t
    rwa [List.append_assoc, List.append_assoc] at h
  rw [hsplit, ← List.nil_append (c :: t), hsplit]
  rfl

end Text

namespace Sheet

variable {s : Sheet} {lint : Lint}

/-- **Where a line ends.** If some text behind `u` goes on behind its first line and does not start
with a line end, then the line on which it starts ends with its headline. -/
theorem lineEnd_eq {u w v : Text} (htext : u ++ (w ++ v) = s.text) (hw : '\n' ∈ w)
    (hhead : ∀ c ∈ w.head?, c ≠ '\r' ∧ c ≠ '\n') :
    s.lineEnd u.endPosition.line = (u ++ w.headline).endPosition := by
  obtain ⟨as, x, y, bs, hend, -, hv, hlines⟩ := Text.exists_lines_append_eq u (w ++ v)
  have hline : (s.text.splitOn '\n')[as.length]? = some (x ++ y) := by
    rw [← htext]
    show (Text.lines _)[as.length]? = _
    rw [hlines]
    simp
  have hxy : '\n' ∉ x ++ y := Text.newline_notMem_of_mem_lines (by rw [hlines]; simp)
  have hy : w.takeWhile (· ≠ '\n') = y :=
    Text.takeWhile_eq_of_append_eq_ofLines hw hv fun h => hxy (List.mem_append_right x h)
  -- the line starts with the first character of `w`, which is no carriage return
  obtain ⟨c, w, rfl⟩ := List.exists_cons_of_ne_nil (List.ne_nil_of_mem hw)
  obtain ⟨hreturn, hfeed⟩ := hhead c rfl
  have hdrop : (x ++ y).dropEndWhile (· == '\r') = x ++ Text.headline (c :: w) := by
    rw [Text.headline, hy]
    refine Text.dropEndWhile_append_of_head x ?_ ?_ <;> rw [← hy]
    · simp [hfeed]
    · simp [hfeed, hreturn]
  have hlength : ((x ++ y).reverse.dropWhile (· == '\r')).length =
      x.length + (Text.headline (c :: w)).length := by
    rw [← List.length_append, ← hdrop, Text.dropEndWhile, List.length_reverse]
  rw [Text.endPosition_append_of_notMem _ (Text.newline_notMem_headline _), hend, lineEnd]
  simp only [hline, Option.getD_some, hlength]

/-- **The text of a node** is a piece of the whole text, and the positions in it are found by their
distance from its start. -/
theorem exists_textOf_eq {n : Node} (h : n.Placed s.text) :
    ∃ u v : Text, u ++ (s.textOf n.info ++ v) = s.text ∧
      n.info.start + (s.textOf n.info).byteSize = n.info.stop ∧
      ∀ x : Text, x <+: s.textOf n.info →
        s.text.positionAt (n.info.start + x.byteSize) = (u ++ x).endPosition := by
  obtain ⟨w, hw⟩ := Option.isSome_iff_exists.mp h.isSome_slice?
  have hw' : s.textOf n.info = w := by rw [textOf, hw, Option.getD_some]
  rw [hw']
  obtain ⟨u, v, htext, hstart, hstop⟩ := Text.slice?_eq_some_iff.mp hw
  refine ⟨u, v, htext, by rw [← hstart, ← Text.byteSize_append, hstop], ?_⟩
  rintro x ⟨y, rfl⟩
  have hsplit : s.text = (u ++ x) ++ (y ++ v) := by
    rw [← htext]
    simp only [List.append_assoc]
  rw [hsplit, ← hstart, ← Text.byteSize_append, Text.positionAt_append_byteSize]

/-- A node that is cut off at the end of its first line is on one line. -/
theorem line_firstLineRange {n : Node} (h : n.Placed s.text) :
    (s.firstLineRange n.info).start.line = (s.firstLineRange n.info).stop.line := by
  have hle := Position.line_le_line (s.text.positionAt_le_positionAt h.start_le_stop)
  simp only [firstLineRange]
  split
  · rfl
  · next hnot => exact le_antisymm hle (not_lt.mp hnot)

/-- **The range of a node, up to the end of its first line.** -/
theorem firstLineRange_eq {n : Node} (h : n.Placed s.text)
    (hhead : ∀ c ∈ (s.textOf n.info).head?, c ≠ '\r' ∧ c ≠ '\n') :
    s.firstLineRange n.info = s.text.rangeAt n.info.start
      (if '\n' ∈ s.textOf n.info then n.info.start + (s.textOf n.info).headline.byteSize
        else n.info.stop) := by
  obtain ⟨u, v, htext, hstop, hpositions⟩ := exists_textOf_eq h
  have hpstart : (s.rangeOf n.info).start = u.endPosition := by
    have hnil := hpositions [] List.nil_prefix
    rwa [List.append_nil] at hnil
  have hpstop : (s.rangeOf n.info).stop = (u ++ s.textOf n.info).endPosition := by
    rw [← hpositions _ List.prefix_rfl, hstop]
    rfl
  -- the node spans several lines if there is a line feed in it
  have hlines : (s.rangeOf n.info).start.line < (s.rangeOf n.info).stop.line ↔
      '\n' ∈ s.textOf n.info := by
    rw [hpstart, hpstop, Text.endPosition_append, Position.add_line,
      Text.endPosition_eq (s.textOf n.info), ← List.count_pos_iff]
    exact Nat.lt_add_right_iff_pos
  simp only [firstLineRange, hlines]
  split
  · next hfeed =>
    rw [Text.rangeAt, hpositions _ (Text.headline_isPrefix _), hpstart,
      lineEnd_eq htext hfeed hhead, ← hpstart]
    rfl
  · rfl

/-- The report of a syntax error starts where its node does. -/
theorem start_faultReport (s : Sheet) (i : NodeInfo) :
    (s.faultReport i).range.start = s.text.positionAt i.start := by
  rw [faultReport]
  split
  · show (s.firstLineRange i).start = _
    simp only [firstLineRange]
    split <;> rfl
  · rfl

/-- The report of an error covers the first line of its node. -/
theorem range_faultReport_of_error {i : NodeInfo} (h : i.kind = "ERROR") :
    (s.faultReport i).range = s.firstLineRange i := by
  rw [faultReport, if_pos h]
  rfl

/-! ## Reports of either kind -/

/-- The reports of syntax errors are those of the outermost faults. -/
theorem filter_syntaxError (s : Sheet) (lint : Lint) :
    (s.diagnostics lint).filter (·.HasCode "syntax-error") =
      (s.tree.root.outermost (fun l => l.node.IsFault) []).map
        fun l => s.faultReport l.node.info := by
  rw [List.map_eq_flatMap]
  refine Node.flatMap_outermost (p := fun l => l.node.IsFault)
    (fun _ n => (s.diagnoseNode lint n).filter (·.HasCode "syntax-error")) _
    (fun _ n hfault => ?_) (fun _ n hfault => ?_) s.tree.root
  · rw [diagnoseNode_of_isFault hfault]
    exact List.filter_eq_self.mpr (by simp)
  · -- what is reported of the node itself is of another kind
    have hown (below : List Diagnostic) :
        (s.ownReports lint n below).filter (·.HasCode "syntax-error") = [] := by
      refine List.filter_eq_nil_iff.mpr fun d hd hcode => ?_
      rcases hasCode_of_mem_ownReports hd with h | h
      · exact absurd (eq_of_hasCode h (of_decide_eq_true hcode)) (by decide)
      · exact absurd (eq_of_hasCode h (of_decide_eq_true hcode)) (by decide)
    rw [diagnoseNode_of_not_isFault hfault, List.filter_append, hown, List.append_nil,
      List.filter_flatMap]

/-- There is something to report of the node, if nothing is reported below it. -/
def IsFlawed (s : Sheet) (lint : Lint) (n : Node) : Prop :=
  n.IsFault ∨ (s.ownReports lint n []).isEmpty = false

instance (s : Sheet) (lint : Lint) : DecidablePred (s.IsFlawed lint) := fun n =>
  inferInstanceAs (Decidable (n.IsFault ∨ (s.ownReports lint n []).isEmpty = false))

/-- Nothing is reported of a node if it has no flaw and nothing is reported below it. -/
theorem diagnoseNode_eq_nil_iff {n : Node} :
    s.diagnoseNode lint n = [] ↔
      ¬ s.IsFlawed lint n ∧ n.children.flatMap (s.diagnoseNode lint) = [] := by
  by_cases hfault : n.IsFault
  · rw [diagnoseNode_of_isFault hfault]
    simp [IsFlawed, hfault]
  · have hself : ¬ s.IsFlawed lint n ↔ s.ownReports lint n [] = [] := by
      simp [IsFlawed, hfault]
    rw [diagnoseNode_of_not_isFault hfault, List.append_eq_nil_iff, hself, and_comm]
    -- what is reported of the node itself depends on whether anything is reported below it
    exact and_congr_left fun hnil => by rw [hnil]

/-- **Nothing is reported below a node** if there are no flaws below it, and only then. -/
theorem flatMap_diagnoseNode_eq_nil_iff (s : Sheet) (lint : Lint) (n : Node) :
    n.children.flatMap (s.diagnoseNode lint) = [] ↔
      ∀ m ∈ Node.preorderAll n.children, ¬ s.IsFlawed lint m := by
  induction n with
  | node i cs ih =>
    rw [Node.children, List.flatMap_eq_nil_iff]
    constructor
    · intro h m hm
      obtain ⟨c, hc, hmc⟩ := Node.mem_preorderAll_iff.mp hm
      obtain ⟨hself, hbelow⟩ := diagnoseNode_eq_nil_iff.mp (h c hc)
      rw [Node.preorder_eq_cons] at hmc
      rcases List.mem_cons.mp hmc with rfl | hmc
      · exact hself
      · exact (ih c hc).mp hbelow m hmc
    · intro h c hc
      have hall : ∀ m ∈ c.preorder, ¬ s.IsFlawed lint m :=
        fun m hm => h m (Node.mem_preorderAll_iff.mpr ⟨c, hc, hm⟩)
      rw [Node.preorder_eq_cons] at hall
      obtain ⟨hself, hbelow⟩ := List.forall_mem_cons.mp hall
      exact diagnoseNode_eq_nil_iff.mpr ⟨hself, (ih c hc).mpr hbelow⟩

/-- A declaration is checked: it is in no syntax error, and nothing is wrong with anything below
it. -/
structure IsChecked (s : Sheet) (lint : Lint) (l : Located) : Prop where
  kind_eq : l.node.kind = "declaration"
  not_isFault : ∀ m ∈ l.path, ¬ m.IsFault
  not_isFlawed : ∀ m ∈ Node.preorderAll l.node.children, ¬ s.IsFlawed lint m

instance (s : Sheet) (lint : Lint) : DecidablePred (s.IsChecked lint) := fun l =>
  decidable_of_iff
    (l.node.kind = "declaration" ∧ (∀ m ∈ l.path, ¬ m.IsFault) ∧
      ∀ m ∈ Node.preorderAll l.node.children, ¬ s.IsFlawed lint m)
    ⟨fun ⟨h, h', h''⟩ => ⟨h, h', h''⟩, fun ⟨h, h', h''⟩ => ⟨h, h', h''⟩⟩

/-- Of a node itself, an unknown property is reported only if it is a declaration and nothing is
reported below it. -/
theorem filter_unknownProperty_ownReports {n : Node} (below : List Diagnostic) :
    (s.ownReports lint n below).filter (·.HasCode "unknown-property") =
      if n.kind = "declaration" ∧ below.isEmpty then s.unknownProperty lint n.children else [] := by
  unfold ownReports
  by_cases hkind : n.kind = "declaration"
  · have hall : (s.unknownProperty lint n.children).filter (·.HasCode "unknown-property") =
        s.unknownProperty lint n.children :=
      List.filter_eq_self.mpr fun d hd => decide_eq_true (hasCode_of_mem_unknownProperty hd)
    cases below <;> simp [hkind, hall]
  · have hnot : ¬ (n.kind = "declaration" ∧ below.isEmpty = true) := fun h => hkind h.1
    rw [if_neg hkind, if_neg hnot]
    split
    · refine List.filter_eq_nil_iff.mpr fun d hd hcode => ?_
      exact absurd (eq_of_hasCode (hasCode_of_mem_invalidColor hd) (of_decide_eq_true hcode))
        (by decide)
    · rfl

/-- **Unknown properties below a node** are reported of the declarations that are checked. No
declaration that is reported is below another one, so that it does not matter whether a declaration
comes before or after what is below it. -/
theorem filter_unknownProperty_walk (s : Sheet) (lint : Lint) {n : Node} {above : List Node}
    (habove : ∀ m ∈ above, ¬ m.IsFault) :
    (s.diagnoseNode lint n).filter (·.HasCode "unknown-property") =
      ((n.walk above).filter (s.IsChecked lint)).flatMap fun l =>
        s.unknownProperty lint l.node.children := by
  induction n generalizing above with
  | node i cs ih =>
    rw [Node.walk, List.filter_cons, Node.walkAll_eq_flatMap]
    by_cases hfault : (Node.node i cs).IsFault
    · -- nothing in a syntax error is checked
      have hroot : ¬ s.IsChecked lint ⟨.node i cs, above⟩ :=
        fun hchecked => hchecked.not_isFault _ List.mem_cons_self hfault
      have hbelow :
          (cs.flatMap (Node.walk (.node i cs :: above))).filter (s.IsChecked lint) = [] := by
        refine List.filter_eq_nil_iff.mpr fun l hl hchecked => ?_
        obtain ⟨c, -, hlc⟩ := List.mem_flatMap.mp hl
        have hmem := (Node.isSuffix_ancestors_of_mem_walk hlc).mem List.mem_cons_self
        exact (of_decide_eq_true hchecked).not_isFault _ (List.mem_cons_of_mem _ hmem) hfault
      rw [diagnoseNode_of_isFault hfault, if_neg (by simpa using hroot), hbelow]
      exact List.filter_eq_nil_iff.mpr (by simp)
    · have hpath : ∀ m ∈ Node.node i cs :: above, ¬ m.IsFault :=
        List.forall_mem_cons.mpr ⟨hfault, habove⟩
      have hbelow : (cs.flatMap (s.diagnoseNode lint)).filter (·.HasCode "unknown-property") =
          ((cs.flatMap (Node.walk (.node i cs :: above))).filter (s.IsChecked lint)).flatMap
            fun l => s.unknownProperty lint l.node.children := by
        rw [List.filter_flatMap, List.filter_flatMap, List.flatMap_assoc]
        exact List.flatMap_congr fun c hc => ih c hc hpath
      have hchecked : s.IsChecked lint ⟨.node i cs, above⟩ ↔
          (Node.node i cs).kind = "declaration" ∧
            (cs.flatMap (s.diagnoseNode lint)).isEmpty := by
        have hquiet := s.flatMap_diagnoseNode_eq_nil_iff lint (.node i cs)
        rw [List.isEmpty_iff]
        constructor
        · intro h
          exact ⟨h.kind_eq, hquiet.mpr h.not_isFlawed⟩
        · rintro ⟨hkind, hnil⟩
          exact ⟨hkind, hpath, hquiet.mp hnil⟩
      rw [diagnoseNode_of_not_isFault hfault, List.filter_append, Node.children, hbelow,
        filter_unknownProperty_ownReports]
      by_cases h : s.IsChecked lint ⟨.node i cs, above⟩
      · -- a declaration that is checked is the only one to be reported here
        have hnil := List.isEmpty_iff.mp (hchecked.mp h).2
        rw [hnil, List.filter_nil] at hbelow
        rw [if_pos (hchecked.mp h), if_pos (decide_eq_true h), List.flatMap_cons, ← hbelow,
          List.append_nil]
        rfl
      · rw [if_neg (hchecked.not.mp h), if_neg (by simpa using h), List.append_nil]

/-- **Syntax errors are all reported, and where they are.** The reports of syntax errors are those
of the nodes that the parser could not make sense of or had to put in, as far as they are in no
other such node, in the order of the text. Each starts where its node does. That of an error which
does not start with a line end is on one line: it covers the node, or its first line without the
carriage returns at the end. An unknown property is only reported of declarations in which there is
no syntax error. -/
theorem diagnostics_syntaxErrors {s : Sheet} (lint : Lint)
    (htree : s.tree.root.WellFormed s.text) :
    let faults := s.tree.root.outermost (fun l => l.node.IsFault) []
    let checked := (s.tree.root.walk []).filter (s.IsChecked lint)
    (s.diagnostics lint).filter (·.HasCode "syntax-error") =
        faults.map (fun l => s.faultReport l.node.info) ∧
      (∀ l ∈ faults, (s.faultReport l.node.info).range.start =
        s.text.positionAt l.node.info.start) ∧
      (∀ l ∈ faults, l.node.kind = "ERROR" →
        (∀ c ∈ (s.textOf l.node.info).head?, c ≠ '\r' ∧ c ≠ '\n') →
          let text := s.textOf l.node.info
          let r := (s.faultReport l.node.info).range
          r.start.line = r.stop.line ∧ r.start ≤ r.stop ∧
            r.stop = s.text.positionAt (if '\n' ∈ text then
              l.node.info.start + text.headline.byteSize else l.node.info.stop)) ∧
      (s.diagnostics lint).filter (·.HasCode "unknown-property") =
        checked.flatMap (fun l => s.unknownProperty lint l.node.children) ∧
      ∀ l ∈ checked, l.node.kind = "declaration" ∧ ∀ m ∈ l.node.preorder, ¬ m.IsFault := by
  intro faults checked
  refine ⟨s.filter_syntaxError lint, fun l _ => s.start_faultReport _, fun l hl herror hhead => ?_,
    s.filter_unknownProperty_walk lint (List.forall_mem_nil _), fun l hl => ?_⟩
  · have hplaced := (htree _ (Node.node_mem_preorder_of_mem_walk (Node.mem_outermost.mp hl).1)).1
    intro text r
    have hr : r = s.firstLineRange l.node.info := range_faultReport_of_error herror
    have heq := firstLineRange_eq hplaced hhead
    refine ⟨hr ▸ line_firstLineRange hplaced, ?_, ?_⟩
    · rw [hr, heq]
      refine s.text.positionAt_le_positionAt ?_
      split
      · exact Nat.le_add_right _ _
      · exact hplaced.start_le_stop
    · rw [hr, heq]
      rfl
  · have hchecked := of_decide_eq_true (List.mem_filter.mp hl).2
    refine ⟨hchecked.kind_eq, fun m hm hfault => ?_⟩
    rw [Node.preorder_eq_cons] at hm
    rcases List.mem_cons.mp hm with rfl | hbelow
    · exact hchecked.not_isFault _ List.mem_cons_self hfault
    · exact hchecked.not_isFlawed m hbelow (.inl hfault)

/-- The parser made no sense of the first two lines, up to the block. In the block, a declaration
has no value, and another one sets an unknown property. -/
def faultSample : Sheet where
  text := "$\r\ny\x7bq:;z:1\x7d".toList
  tree :=
    { pins := []
      root :=
        .sample "stylesheet" true 0 12 [
          .node ⟨"ERROR", true, false, true, 0, 4⟩ [
            .node ⟨"ERROR", true, false, true, 0, 1⟩ []],
          .sample "block" true 4 12 [
            .sample "\x7b" false 4 5 [],
            .sample "declaration" true 5 8 [
              .sample "property_name" true 5 6 [],
              .sample ":" false 6 7 [],
              .node ⟨"plain_value", true, true, true, 7, 7⟩ [],
              .sample ";" false 7 8 []],
            .sample "declaration" true 8 11 [
              .sample "property_name" true 8 9 [],
              .sample ":" false 9 10 [],
              .sample "integer_value" true 10 11 []],
            .sample "\x7d" false 11 12 []]] }

/-- The error is reported once, on its first line, and so is the missing value. Only the declaration
that has a value is said to set an unknown property. -/
theorem diagnostics_syntaxErrors_sample :
    let s := faultSample
    s.tree.root.WellFormed s.text ∧
      ((s.diagnostics .standard).filter (·.HasCode "syntax-error")).map (·.range) =
        [⟨⟨0, 0⟩, ⟨0, 1⟩⟩, ⟨⟨1, 4⟩, ⟨1, 4⟩⟩] ∧
      ((s.diagnostics .standard).filter (·.HasCode "unknown-property")).map (·.range) =
        [⟨⟨1, 5⟩, ⟨1, 6⟩⟩] := by
  intro s
  have htree : s.tree.root.WellFormed s.text := by decide +kernel
  obtain ⟨hfaults, -, -, hchecked, -⟩ := diagnostics_syntaxErrors .standard htree
  refine ⟨htree, ?_, ?_⟩
  · rw [hfaults, List.map_map]
    decide +kernel
  · rw [hchecked, List.map_flatMap]
    decide +kernel

end Sheet

end CssFragments
