import CssFragments.Proofs.Rename
import CssFragments.Proofs.Text.Lines
import CssFragments.Proofs.Text.Splice

/-! # The edits of a renaming

A symbol is renamed by one edit for each place where it occurs. These places are found by a walk
over the whole tree, by different rules for different symbols, and are given as positions. All the
same they follow each other in the text, and what stands there is the name of the symbol.

* `TextEdit.Replace`: edits that replace one text by another, wherever they are made.
* `TextEdit.Replace.eq_intercalate`, `TextEdit.Replace.applyTogether_eq`: a text before and after
  such edits, by what they leave of it.
* `Sheet.occurrenceOf?_cases`, `Sheet.slice?_of_occurrenceOf?`: what spells a symbol where it
  occurs.
* `Sheet.pairwise_occurrences`: occurrences follow each other.
* `Sheet.renaming_replaces`: a renaming replaces the old name by the new one, and nothing else. -/

namespace CssFragments

/-! ## Edits that replace one text by another -/

namespace TextEdit

/-- The edits follow each other in the text, and each of them replaces `old` by `new`. Offsets in
bytes are meant. -/
structure Replace (t old : Text) (new : String) (es : List TextEdit) : Prop where
  start_lt_stop : ∀ e ∈ es, t.offsetAt e.range.start < t.offsetAt e.range.stop
  stop_le_start : es.Pairwise fun a b => t.offsetAt a.range.stop ≤ t.offsetAt b.range.start
  slice?_eq : ∀ e ∈ es, t.slice? (t.offsetAt e.range.start) (t.offsetAt e.range.stop) = some old
  newText_eq : ∀ e ∈ es, e.newText = new

/-- The pieces of a text that edits leave: those before, between and behind them. -/
def kept (es : List TextEdit) (t : Text) : List Text := Splice.kept t 0 (es.map (splice t))

/-- What an edit replaces, in bytes and in characters. -/
theorem drop_take_splice {e : TextEdit} {t old : Text}
    (h : t.slice? (t.offsetAt e.range.start) (t.offsetAt e.range.stop) = some old) :
    (t.take (e.splice t).stop).drop (e.splice t).start = old := by
  obtain ⟨u, v, htext, hu, huw⟩ := Text.slice?_eq_some_iff.mp h
  -- a text begins with one text of each size, so that the bytes tell which characters are meant
  have hstart : t.upTo e.range.start = u :=
    Text.eq_of_byteSize_eq (List.take_prefix _ _) ⟨old ++ v, htext⟩ hu.symm
  have hstop : t.upTo e.range.stop = u ++ old := by
    refine Text.eq_of_byteSize_eq (List.take_prefix _ _) ⟨v, ?_⟩ huw.symm
    rw [List.append_assoc, htext]
  have hle : t.indexAt e.range.start ≤ t.indexAt e.range.stop := by
    refine Text.indexAt_le_of_offsetAt_le ?_
    rw [← hu, ← huw, Text.byteSize_append]
    exact Nat.le_add_right _ _
  have hindex : t.indexAt e.range.start = u.length := by
    rw [← hstart, Text.upTo, List.length_take_of_le (Text.indexAt_le_length _ _)]
  have hsplice : (e.splice t).stop = t.indexAt e.range.stop := max_eq_left hle
  calc (t.take (e.splice t).stop).drop (e.splice t).start
      = (t.upTo e.range.stop).drop (t.indexAt e.range.start) := by rw [hsplice]; rfl
    _ = old := by rw [hstop, hindex, List.drop_left]

namespace Replace

variable {t old : Text} {new : String} {es : List TextEdit}

/-- In characters, too, the edits follow each other. -/
theorem pairwise_splice (h : Replace t old new es) :
    (es.map (splice t)).Pairwise fun a b => a.stop ≤ b.start := by
  rw [List.pairwise_map]
  refine h.stop_le_start.imp_of_mem fun {a b} ha _ hab => ?_
  have hle : t.offsetAt a.range.start ≤ t.offsetAt b.range.start :=
    le_trans (le_of_lt (h.start_lt_stop a ha)) hab
  exact max_le (Text.indexAt_le_of_offsetAt_le hab) (Text.indexAt_le_of_offsetAt_le hle)

/-- Between the pieces that are left, the old text stands before the edits. -/
theorem eq_intercalate (h : Replace t old new es) : t = old.intercalate (kept es t) := by
  have hold : ∀ e ∈ es.map (splice t), (t.take e.stop).drop e.start = old := by
    intro e he
    obtain ⟨a, ha, rfl⟩ := List.mem_map.mp he
    exact drop_take_splice (h.slice?_eq a ha)
  have htext := Splice.take_append_intercalate_kept (i := 0) (fun e _ => Nat.zero_le e.start)
    h.pairwise_splice hold
  rw [List.take_zero, List.nil_append] at htext
  exact htext.symm

/-- Between the pieces that are left, the new text stands after the edits. -/
theorem applyTogether_eq (h : Replace t old new es) :
    applyTogether es t = new.toList.intercalate (kept es t) := by
  have hle : ∀ e ∈ es.map (splice t), e.stop ≤ t.length := by
    intro e he
    obtain ⟨a, -, rfl⟩ := List.mem_map.mp he
    exact a.stop_splice_le t
  have hnew : ∀ e ∈ es.map (splice t), e.text = new.toList := by
    intro e he
    obtain ⟨a, ha, rfl⟩ := List.mem_map.mp he
    exact congrArg String.toList (h.newText_eq a ha)
  rw [applyTogether, Splice.applyAll_of_pairwise h.pairwise_splice,
    Splice.foldr_apply_eq (i := 0) (fun e _ => Nat.zero_le e.start) h.pairwise_splice hle hnew]
  rfl

/-- Edits that replace a text by itself change nothing. -/
theorem applyTogether_self (h : Replace t old new es) (hnew : new.toList = old) :
    applyTogether es t = t := by
  rw [h.applyTogether_eq, hnew, ← h.eq_intercalate]

end Replace

end TextEdit

/-! ## Symbols and their names -/

/-- The name of a symbol, as it stands in the text. -/
def Target.name : Target → Text
  | customProperty name => name
  | className name => name
  | idName name => name

/-- Whether a symbol is a custom property. -/
def Target.isCustomProperty : Target → Bool
  | customProperty _ => true
  | _ => false

/-- The node is of a kind at which symbols occur. -/
def Node.IsSymbol (n : Node) : Prop :=
  n.kind ∈ ["property_name", "plain_value", "class_name", "id_name"]

instance : DecidablePred Node.IsSymbol := fun n =>
  inferInstanceAs (Decidable (n.kind ∈ ["property_name", "plain_value", "class_name", "id_name"]))

/-- The names of custom properties start with two hyphens. -/
theorem isCustom_iff {text : Text} : isCustom text ↔ ['-', '-'] <+: text := by
  constructor
  · intro h
    unfold isCustom at h
    split at h
    · next rest => exact ⟨rest, rfl⟩
    · cases h
  · rintro ⟨rest, rfl⟩
    rfl

namespace Sheet

variable {s : Sheet}

/-- A node names a custom property only if its text is the name of one. -/
theorem isCustom_of_targetOf? {l : Located} {name : Text}
    (h : s.targetOf? l = some (.customProperty name)) : isCustom name := by
  simp only [targetOf?] at h
  split at h
  -- the kinds of nodes that name custom properties
  case h_1 | h_2 =>
    split at h
    · next htext =>
      obtain rfl := Target.customProperty.inj (Option.some.inj h)
      exact htext
    · cases h
  case h_4 => split at h <;> cases h
  all_goals cases h

/-- The symbol under a cursor keeps its name when it gets the name that it has. -/
theorem newSpelling_name {p : Position} {target : Target} {n : Node}
    (h : s.targetAt? p = some (target, n)) : newSpelling target target.name = target.name := by
  obtain ⟨hnames, -⟩ := targetAt?_eq_some_iff.mp h
  cases target with
  | customProperty name => exact if_pos (isCustom_of_targetOf? hnames)
  | className name => rfl
  | idName name => rfl

/-- A custom property keeps its two hyphens, and all other symbols take the new name as it is. -/
theorem ofList_newSpelling (target : Target) (name : String) :
    String.ofList (newSpelling target name.toList) =
      if target.isCustomProperty ∧ ¬ ['-', '-'] <+: name.toList then "--" ++ name else name := by
  cases target with
  | customProperty _ =>
    by_cases hcustom : isCustom name.toList
    · rw [newSpelling, if_pos hcustom, String.ofList_toList, if_neg]
      exact fun h => h.2 (isCustom_iff.mp hcustom)
    · have hhyphens : String.ofList ('-' :: '-' :: name.toList) = "--" ++ name := by
        rw [← String.toList_inj, String.toList_append, String.toList_ofList]
        rfl
      rw [newSpelling, if_neg hcustom, hhyphens, if_pos]
      exact ⟨rfl, fun h => hcustom (isCustom_iff.mpr h)⟩
  | className _ => simp [newSpelling, Target.isCustomProperty]
  | idName _ => simp [newSpelling, Target.isCustomProperty]

/-- **Where a symbol occurs** there is a node of one of its kinds, and it is spelled by that node or
by a child of it. -/
theorem occurrenceOf?_cases {target : Target} {n : Node} {o : Occurrence}
    (h : s.occurrenceOf? target n = some o) :
    n.IsSymbol ∧ ∃ m, (m = n ∨ m ∈ n.children) ∧ s.textOf m.info = target.name ∧
      o.range = s.rangeOf m.info := by
  simp only [occurrenceOf?] at h
  split at h
  case h_3 name hkind =>
    -- a class is spelled by an identifier right below, if there is one
    obtain ⟨htext, ho⟩ := Option.ite_none_right_eq_some.mp h
    obtain rfl := Option.some.inj ho
    refine ⟨by simp [Node.IsSymbol, hkind], classNameNode n, ?_, htext, rfl⟩
    exact (classNameNode_eq n).imp_right And.left
  case h_5 => cases h
  all_goals
    next hkind =>
    obtain ⟨htext, ho⟩ := Option.ite_none_right_eq_some.mp h
    obtain rfl := Option.some.inj ho
    exact ⟨by simp [Node.IsSymbol, hkind], n, .inl rfl, htext, rfl⟩

/-! ## Occurrences in the text -/

/-- A node that covers whole characters is found again by its range. -/
theorem offsetAt_rangeOf {n : Node} (h : n.Placed s.text) :
    s.text.offsetAt (s.rangeOf n.info).start = n.info.start ∧
      s.text.offsetAt (s.rangeOf n.info).stop = n.info.stop :=
  ⟨Text.offsetAt_positionAt h.isBoundary_start, Text.offsetAt_positionAt h.isBoundary_stop⟩

/-- A node that covers whole characters has a text. -/
theorem slice?_eq_textOf {n : Node} (h : n.Placed s.text) :
    s.text.slice? n.info.start n.info.stop = some (s.textOf n.info) := by
  have hsome := Text.isSome_slice? h.start_le_stop h.isBoundary_start h.isBoundary_stop
  obtain ⟨text, htext⟩ := Option.isSome_iff_exists.mp hsome
  rw [textOf, htext, Option.getD_some]

/-- **An occurrence in the text** of a well-formed tree is in what the node there covers, and it
spells the name of the symbol. -/
theorem slice?_of_occurrenceOf? (hwf : s.tree.root.WellFormed s.text) {target : Target} {n : Node}
    {o : Occurrence} (hn : n ∈ s.nodes) (h : s.occurrenceOf? target n = some o) :
    n.info.start ≤ s.text.offsetAt o.range.start ∧ s.text.offsetAt o.range.stop ≤ n.info.stop ∧
      s.text.slice? (s.text.offsetAt o.range.start) (s.text.offsetAt o.range.stop) =
        some target.name := by
  obtain ⟨-, m, hm, htext, hrange⟩ := occurrenceOf?_cases h
  obtain ⟨hplaced, hwithin⟩ : m.Placed s.text ∧
      n.info.start ≤ m.info.start ∧ m.info.stop ≤ n.info.stop := by
    rcases hm with rfl | hm
    · exact ⟨(hwf _ hn).1, le_rfl, le_rfl⟩
    · exact ⟨(hwf _ (Node.mem_preorder_of_mem_children hn hm)).1, (hwf n hn).1.within m hm⟩
  obtain ⟨hstart, hstop⟩ := offsetAt_rangeOf hplaced
  rw [hrange, hstart, hstop, slice?_eq_textOf hplaced, htext]
  exact ⟨hwithin.1, hwithin.2, rfl⟩

/-- **Occurrences follow each other** in the text of a well-formed tree, if they are at nodes that
are not below each other. -/
theorem pairwise_occurrences (hwf : s.tree.root.WellFormed s.text)
    (hflat : s.tree.root.Unnested Node.IsSymbol) (target : Target) :
    (s.occurrences target).Pairwise fun a b =>
      s.text.offsetAt a.range.stop ≤ s.text.offsetAt b.range.start := by
  refine List.pairwise_filterMap.mpr ((hwf.pairwise_preorder hflat).imp_of_mem ?_)
  intro m n hm hn hfollows a ha b hb
  -- both occurrences are in what their nodes cover
  obtain ⟨-, hstop, -⟩ := slice?_of_occurrenceOf? hwf hm ha
  obtain ⟨hstart, -, -⟩ := slice?_of_occurrenceOf? hwf hn hb
  have hmn := hfollows (occurrenceOf?_cases ha).1 (occurrenceOf?_cases hb).1
  exact le_trans hstop (le_trans hmn hstart)

/-- Edits of all occurrences of a symbol replace its name. -/
theorem replace_occurrences (hwf : s.tree.root.WellFormed s.text)
    (hflat : s.tree.root.Unnested Node.IsSymbol) {target : Target} (hname : target.name ≠ [])
    (new : String) :
    TextEdit.Replace s.text target.name new
      ((s.occurrences target).map fun o => ⟨o.range, new⟩) := by
  -- the order of the ends follows from the text between them, which is not empty
  have hslice : ∀ o ∈ s.occurrences target,
      s.text.slice? (s.text.offsetAt o.range.start) (s.text.offsetAt o.range.stop) =
        some target.name := by
    intro o ho
    obtain ⟨n, hn, h⟩ := List.mem_filterMap.mp ho
    exact (slice?_of_occurrenceOf? hwf hn h).2.2
  refine ⟨?start_lt_stop, ?stop_le_start, ?slice?_eq, ?newText_eq⟩
  case start_lt_stop =>
    rw [List.forall_mem_map]
    exact fun o ho => Text.lt_of_slice?_eq_some hname (hslice o ho)
  case stop_le_start => exact List.pairwise_map.mpr (pairwise_occurrences hwf hflat target)
  case slice?_eq =>
    rw [List.forall_mem_map]
    exact hslice
  case newText_eq =>
    rw [List.forall_mem_map]
    exact fun _ _ => rfl

/-! ## What a renaming does to the text -/

/-- What a renaming returns are edits of all occurrences of the symbol under the cursor. -/
theorem rename?_eq_some_iff {uri name : String} {p : Position} {target : Target} {n : Node}
    {w : WorkspaceEdit} (htarget : s.targetAt? p = some (target, n)) :
    s.rename? uri p name = some w ↔ s.occurrences target ≠ [] ∧
      w = ⟨some [(uri, (s.occurrences target).map fun o =>
        ⟨o.range, String.ofList (newSpelling target name.toList)⟩)], none, none⟩ := by
  by_cases hnone : s.occurrences target = []
  · simp [rename?, htarget, hnone]
  · simp [rename?, htarget, hnone, @eq_comm _ w]

/-- **A renaming replaces the old name by the new one, and nothing else.** If no two nodes at which
symbols occur are below each other in a well-formed tree, the edits are of one document, follow each
other, and replace the name of the symbol under the cursor. A custom property keeps its two hyphens.
So the text before and after the edits is the same but for the name, and it stays what it is if the
symbol gets its own name. -/
theorem renaming_replaces {uri name : String} {p : Position} {target : Target} {n : Node}
    {w : WorkspaceEdit} (hwf : s.tree.root.WellFormed s.text)
    (hflat : s.tree.root.Unnested Node.IsSymbol) (htarget : s.targetAt? p = some (target, n))
    (hname : target.name ≠ []) (h : s.rename? uri p name = some w) :
    ∃ edits new, w = ⟨some [(uri, edits)], none, none⟩ ∧ edits ≠ [] ∧
      new = (if target.isCustomProperty ∧ ¬ ['-', '-'] <+: name.toList then "--" ++ name
        else name) ∧
      TextEdit.Replace s.text target.name new edits ∧
      s.text = target.name.intercalate (TextEdit.kept edits s.text) ∧
      TextEdit.applyTogether edits s.text =
        new.toList.intercalate (TextEdit.kept edits s.text) ∧
      (name.toList = target.name → TextEdit.applyTogether edits s.text = s.text) := by
  obtain ⟨hoccurs, rfl⟩ := (rename?_eq_some_iff htarget).mp h
  have hreplace := replace_occurrences hwf hflat hname
    (String.ofList (newSpelling target name.toList))
  refine ⟨_, _, rfl, ?_, ofList_newSpelling target name, hreplace, hreplace.eq_intercalate,
    hreplace.applyTogether_eq, fun hown => hreplace.applyTogether_self ?_⟩
  · rw [Ne, List.map_eq_nil_iff]
    exact hoccurs
  · rw [String.toList_ofList, hown, newSpelling_name htarget]

/-- A custom property that is declared and used, with a name of more bytes than characters. -/
def renameSample : Sheet where
  text := "a\x7b--é:1;b:var(--é)\x7d".toList
  tree :=
    { pins := []
      root :=
        .sample "stylesheet" true 0 21 [
          .sample "rule_set" true 0 21 [
            .sample "selectors" true 0 1 [.sample "tag_name" true 0 1 []],
            .sample "block" true 1 21 [
              .sample "\x7b" false 1 2 [],
              .sample "declaration" true 2 9 [
                .sample "property_name" true 2 6 [],
                .sample ":" false 6 7 [],
                .sample "integer_value" true 7 8 [],
                .sample ";" false 8 9 []],
              .sample "declaration" true 9 20 [
                .sample "property_name" true 9 10 [],
                .sample ":" false 10 11 [],
                .sample "call_expression" true 11 20 [
                  .sample "function_name" true 11 14 [],
                  .sample "arguments" true 14 20 [
                    .sample "(" false 14 15 [],
                    .sample "plain_value" true 15 19 [],
                    .sample ")" false 19 20 []]]],
              .sample "\x7d" false 20 21 []]]] }

/-- The edits that give the custom property of the sample another name. -/
def renameSampleEdits (new : String) : List TextEdit :=
  [⟨⟨⟨0, 2⟩, ⟨0, 5⟩⟩, new⟩, ⟨⟨⟨0, 14⟩, ⟨0, 17⟩⟩, new⟩]

/-- A custom property gets a name without hyphens, which it gets with two of them, and the name that
it has. -/
theorem renaming_replaces_sample :
    renameSample.tree.root.WellFormed renameSample.text ∧
      renameSample.tree.root.Unnested Node.IsSymbol ∧
      renameSample.targetAt? ⟨0, 3⟩ =
        some (.customProperty "--é".toList, .sample "property_name" true 2 6 []) ∧
      renameSample.rename? "untitled:1" ⟨0, 3⟩ "x" =
        some ⟨some [("untitled:1", renameSampleEdits "--x")], none, none⟩ ∧
      TextEdit.Replace renameSample.text "--é".toList "--x" (renameSampleEdits "--x") ∧
      TextEdit.applyTogether (renameSampleEdits "--x") renameSample.text =
        "a\x7b--x:1;b:var(--x)\x7d".toList ∧
      TextEdit.applyTogether (renameSampleEdits "--é") renameSample.text = renameSample.text := by
  have hwf : renameSample.tree.root.WellFormed renameSample.text := by decide +kernel
  have hflat : renameSample.tree.root.Unnested Node.IsSymbol := by decide +kernel
  have htarget : renameSample.targetAt? ⟨0, 3⟩ =
      some (.customProperty "--é".toList, .sample "property_name" true 2 6 []) := by rfl
  have hname : (Target.customProperty "--é".toList).name ≠ [] := by decide
  have hrename : renameSample.rename? "untitled:1" ⟨0, 3⟩ "x" =
      some ⟨some [("untitled:1", renameSampleEdits "--x")], none, none⟩ := by decide +kernel
  have hown : renameSample.rename? "untitled:1" ⟨0, 3⟩ "--é" =
      some ⟨some [("untitled:1", renameSampleEdits "--é")], none, none⟩ := by decide +kernel
  obtain ⟨edits, new, hedits, -, rfl, hreplace, -, happly, -⟩ :=
    renaming_replaces hwf hflat htarget hname hrename
  obtain rfl : renameSampleEdits "--x" = edits := by simpa using hedits
  obtain ⟨edits, new, hedits, -, -, -, -, -, hself⟩ :=
    renaming_replaces hwf hflat htarget hname hown
  obtain rfl : renameSampleEdits "--é" = edits := by simpa using hedits
  refine ⟨hwf, hflat, htarget, hrename, hreplace, ?_, hself rfl⟩
  -- edits are sorted before they are made, and what is kept between them can be evaluated instead
  rw [happly]
  decide +kernel

end Sheet

end CssFragments
