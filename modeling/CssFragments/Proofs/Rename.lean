import CssFragments.Proofs.Outline
import CssFragments.Proofs.Tree.Lineage
import CssFragments.Sheet.Reference

/-! # What is renamed

Before a symbol is renamed, the client asks for the range that names it under the cursor. It expects
the same range among those that are edited, listed and highlighted. All of these are places where
the symbol occurs, so that the question is whether the node under the cursor is one of them. For
custom properties and ids it always is. A class occurs by the first identifier in its name, while
any identifier in the name can be under the cursor, and then the range may be of none of its
occurrences.

* `Sheet.RenameAgrees`: the range under the cursor is among those that are edited, listed and
  highlighted.
* `Sheet.targetOf?_cases`, `Sheet.mem_occurrences_className_iff`: the symbol that a node names, and
  where a class occurs.
* `Sheet.renameAgrees_of_targetAt?`: agreement is a matter of one occurrence.
* `Node.PlainlySpelled`: the name of a class is one identifier.
* `Sheet.renameAgrees_iff`: when all of it agrees; `Sheet.not_renameAgrees_escaped`: when it does
  not. -/

namespace CssFragments

namespace Sheet

variable {s : Sheet}

/-! ## Agreement -/

/-- A range is shown before renaming if and only if there are edits, and then it is among the ranges
that are edited, listed and highlighted. -/
structure RenameAgrees (s : Sheet) (uri : String) (p : Position) (name : String) : Prop where
  isSome_iff : (s.renameRange? p).isSome ↔ (s.rename? uri p name).isSome
  edited : ∀ r, s.renameRange? p = some r →
    ∃ edits, s.rename? uri p name = some ⟨some [(uri, edits)], none, none⟩ ∧
      ∃ e ∈ edits, e.range = r
  referenced : ∀ r, s.renameRange? p = some r → ∃ l ∈ s.references uri p true, l.range = r
  highlighted : ∀ r, s.renameRange? p = some r → ∃ h ∈ s.highlights p, h.range = r

/-! ## Symbols and their occurrences -/

/-- **The symbol that a node names** has the text of the node for a name. For a class, this may be
the name itself or an identifier in it. -/
theorem targetOf?_cases {l : Located} {target : Target} (h : s.targetOf? l = some target) :
    ((l.node.kind = "property_name" ∨ l.node.kind = "plain_value") ∧
        target = .customProperty (s.textOf l.node.info)) ∨
      ((l.node.kind = "class_name" ∨
          l.node.kind = "identifier" ∧ ∃ m, l.parent? = some m ∧ m.kind = "class_name") ∧
        target = .className (s.textOf l.node.info)) ∨
      (l.node.kind = "id_name" ∧ target = .idName (s.textOf l.node.info)) := by
  simp only [targetOf?] at h
  split at h
  · next hkind =>
    split at h
    · exact .inl ⟨.inl hkind, (Option.some.inj h).symm⟩
    · cases h
  · next hkind =>
    split at h
    · exact .inl ⟨.inr hkind, (Option.some.inj h).symm⟩
    · cases h
  · next hkind => exact .inr (.inl ⟨.inl hkind, (Option.some.inj h).symm⟩)
  · next hkind =>
    split at h
    · next hparent =>
      obtain ⟨m, hm, hclass⟩ := Option.map_eq_some_iff.mp hparent
      exact .inr (.inl ⟨.inr ⟨hkind, m, hm, hclass⟩, (Option.some.inj h).symm⟩)
    · cases h
  · next hkind => exact .inr (.inr ⟨hkind, (Option.some.inj h).symm⟩)
  · cases h

/-- A custom property occurs at each node that is its name. -/
theorem exists_occurrence_customProperty {n : Node}
    (hkind : n.kind = "property_name" ∨ n.kind = "plain_value") (hn : n ∈ s.nodes) :
    ∃ o ∈ s.occurrences (.customProperty (s.textOf n.info)), o.range = s.rangeOf n.info := by
  rcases hkind with hkind | hkind
  · refine ⟨⟨s.rangeOf n.info, true⟩, List.mem_filterMap.mpr ⟨n, hn, ?_⟩, rfl⟩
    simp [occurrenceOf?, hkind]
  · refine ⟨⟨s.rangeOf n.info, false⟩, List.mem_filterMap.mpr ⟨n, hn, ?_⟩, rfl⟩
    simp [occurrenceOf?, hkind]

/-- An id occurs at each node that is its name. -/
theorem exists_occurrence_idName {n : Node} (hkind : n.kind = "id_name") (hn : n ∈ s.nodes) :
    ∃ o ∈ s.occurrences (.idName (s.textOf n.info)), o.range = s.rangeOf n.info := by
  refine ⟨⟨s.rangeOf n.info, false⟩, List.mem_filterMap.mpr ⟨n, hn, ?_⟩, rfl⟩
  simp [occurrenceOf?, hkind]

/-- **A class occurs** where a name of a class is spelled like it, at the node that spells it. -/
theorem mem_occurrences_className_iff {name : Text} {o : Occurrence} :
    o ∈ s.occurrences (.className name) ↔
      ∃ c ∈ s.nodes, c.kind = "class_name" ∧ s.textOf (classNameNode c).info = name ∧
        o = ⟨s.rangeOf (classNameNode c).info, false⟩ := by
  rw [occurrences, List.mem_filterMap]
  refine exists_congr fun c => and_congr_right fun _ => ?_
  by_cases hkind : c.kind = "class_name"
  · simp [occurrenceOf?, hkind, eq_comm]
  · simp [occurrenceOf?, hkind]

/-! ## One occurrence -/

/-- Without a symbol under the cursor, there is nothing to disagree about. -/
theorem renameAgrees_of_targetAt?_eq_none {uri name : String} {p : Position}
    (h : s.targetAt? p = none) : s.RenameAgrees uri p name := by
  have hrange : s.renameRange? p = none := by simp [renameRange?, h]
  have hrename : s.rename? uri p name = none := by simp [rename?, h]
  refine ⟨by simp [hrange, hrename], ?_, ?_, ?_⟩ <;>
    · intro r hr
      rw [hrange] at hr
      cases hr

/-- **Agreement is a matter of one occurrence:** one at the range that is shown before renaming. -/
theorem renameAgrees_of_targetAt? {uri name : String} {p : Position} {target : Target} {n : Node}
    {r : Range} (htarget : s.targetAt? p = some (target, n)) (hrange : s.renameRange? p = some r) :
    s.RenameAgrees uri p name ↔ ∃ o ∈ s.occurrences target, o.range = r := by
  have hhighlights : s.highlights p =
      (s.occurrences target).map fun o => ⟨o.range, some (highlightKind target o)⟩ := by
    simp [highlights, htarget]
  have hreferences : s.references uri p true =
      (s.occurrences target).map fun o => ⟨uri, o.range⟩ := by
    simp only [references, htarget, Bool.true_or]
    rw [List.filter_eq_self.mpr fun _ _ => rfl]
  constructor
  · intro h
    obtain ⟨x, hx, hxr⟩ := h.highlighted r hrange
    rw [hhighlights] at hx
    obtain ⟨o, ho, rfl⟩ := List.mem_map.mp hx
    exact ⟨o, ho, hxr⟩
  · rintro ⟨o, ho, rfl⟩
    have hne : s.occurrences target ≠ [] := List.ne_nil_of_mem ho
    have hrename : s.rename? uri p name = some ⟨some [(uri, (s.occurrences target).map fun o =>
        ⟨o.range, String.ofList (newSpelling target name.toList)⟩)], none, none⟩ := by
      simp [rename?, htarget, hne]
    have hunique : ∀ r', s.renameRange? p = some r' → o.range = r' :=
      fun r' hr' => Option.some.inj (hrange.symm.trans hr')
    refine ⟨by simp [hrange, hrename], fun r' hr' => ?_, fun r' hr' => ?_, fun r' hr' => ?_⟩
    · exact ⟨_, hrename, _, List.mem_map_of_mem ho, hunique r' hr'⟩
    · exact ⟨_, hreferences ▸ List.mem_map_of_mem ho, hunique r' hr'⟩
    · exact ⟨_, hhighlights ▸ List.mem_map_of_mem ho, hunique r' hr'⟩

/-- The symbol under a cursor is the one that the node there names. -/
theorem targetAt?_eq_some_iff {p : Position} {target : Target} {n : Node} :
    s.targetAt? p = some (target, n) ↔
      s.targetOf? (s.underCursor p) = some target ∧ (s.underCursor p).node = n := by
  simp [targetAt?, Option.map_eq_some_iff, and_comm]

/-- The node under a cursor is one of the tree. -/
theorem node_underCursor_mem (s : Sheet) (p : Position) : (s.underCursor p).node ∈ s.nodes :=
  (s.lineage_underCursor p).mem_preorder _ List.mem_cons_self

end Sheet

/-! ## Names of one identifier -/

/-- The name of a class is spelled by one identifier, or it is not spelled by identifiers at all:
each identifier right below is the one that spells the name, is spelled by nothing else itself, and
covers the name. -/
def Node.PlainlySpelled (n : Node) : Prop :=
  n.kind = "class_name" → ∀ c ∈ n.children, c.kind = "identifier" →
    (Sheet.classNameNode n).info = c.info ∧ (Sheet.classNameNode c).info = c.info ∧
      c.info.start = n.info.start ∧ c.info.stop = n.info.stop

instance (n : Node) : Decidable n.PlainlySpelled := inferInstanceAs (Decidable (_ → _))

namespace Sheet

variable {s : Sheet}

/-- The name of a class is spelled by itself or by an identifier right below. -/
theorem classNameNode_eq (n : Node) :
    classNameNode n = n ∨ classNameNode n ∈ n.children ∧ (classNameNode n).kind = "identifier" := by
  rw [classNameNode, Node.childOfKind?, Node.ofKind?]
  cases hfind : n.children.find? fun c => c.kind == "identifier" with
  | none => exact .inl rfl
  | some c => exact .inr ⟨List.mem_of_find?_eq_some hfind, by simpa using List.find?_some hfind⟩

/-- A plainly spelled name has the text of the identifier that spells it. -/
theorem textOf_classNameNode {n : Node} (hkind : n.kind = "class_name") (h : n.PlainlySpelled) :
    s.textOf (classNameNode n).info = s.textOf n.info := by
  rcases classNameNode_eq n with heq | ⟨hmem, hidentifier⟩
  · rw [heq]
  · obtain ⟨-, -, hstart, hstop⟩ := h hkind _ hmem hidentifier
    rw [textOf, hstart, hstop, textOf]

/-! ## The symbol under the cursor -/

/-- A class agrees if a name that is spelled like the node under the cursor is spelled at the range
that is shown. -/
theorem renameAgrees_className_iff {uri name : String} {p : Position} {text : Text} {n : Node}
    (htarget : s.targetAt? p = some (.className text, n)) :
    s.RenameAgrees uri p name ↔
      ∃ c ∈ s.nodes, c.kind = "class_name" ∧ s.textOf (classNameNode c).info = text ∧
        s.rangeOf (classNameNode c).info = s.rangeOf (classNameNode n).info := by
  have hrange : s.renameRange? p = some (s.rangeOf (classNameNode n).info) := by
    simp [renameRange?, htarget]
  rw [renameAgrees_of_targetAt? htarget hrange]
  simp only [mem_occurrences_className_iff]
  constructor
  · rintro ⟨o, ⟨c, hc, hkind, htext, rfl⟩, ho⟩
    exact ⟨c, hc, hkind, htext, ho⟩
  · rintro ⟨c, hc, hkind, htext, hspelled⟩
    exact ⟨_, ⟨c, hc, hkind, htext, rfl⟩, hspelled⟩

/-- All other symbols agree, since the node under the cursor is an occurrence itself. -/
theorem renameAgrees_of_ne_className {uri name : String} {p : Position}
    (h : ∀ text n, s.targetAt? p ≠ some (.className text, n)) : s.RenameAgrees uri p name := by
  have hnode := s.node_underCursor_mem p
  cases htarget : s.targetAt? p with
  | none => exact renameAgrees_of_targetAt?_eq_none htarget
  | some found =>
    obtain ⟨target, n⟩ := found
    obtain ⟨hnames, rfl⟩ := targetAt?_eq_some_iff.mp htarget
    rcases targetOf?_cases hnames with ⟨hkind, rfl⟩ | ⟨-, rfl⟩ | ⟨hkind, rfl⟩
    · refine (renameAgrees_of_targetAt? htarget ?_).mpr
        (exists_occurrence_customProperty hkind hnode)
      simp [renameRange?, htarget]
    · exact absurd htarget (h _ _)
    · refine (renameAgrees_of_targetAt? htarget ?_).mpr (exists_occurrence_idName hkind hnode)
      simp [renameRange?, htarget]

/-- Plainly spelled names of classes agree like all other symbols. -/
theorem renameAgrees_of_plainlySpelled {uri name : String} {p : Position}
    (h : ∀ n ∈ s.nodes, n.PlainlySpelled) : s.RenameAgrees uri p name := by
  by_cases hclass : ∃ text n, s.targetAt? p = some (.className text, n)
  · obtain ⟨text, n, htarget⟩ := hclass
    have hlineage := s.lineage_underCursor p
    obtain ⟨hnames, rfl⟩ := targetAt?_eq_some_iff.mp htarget
    rw [renameAgrees_className_iff htarget]
    obtain ⟨hkind, hcustom⟩ | ⟨hkind, hname⟩ | ⟨hkind, hid⟩ := targetOf?_cases hnames
    · cases hcustom
    · obtain rfl := Target.className.inj hname
      rcases hkind with hkind | ⟨hkind, m, hm, hclass⟩
      · -- the cursor is on the name, which occurs itself
        have hnode := s.node_underCursor_mem p
        exact ⟨_, hnode, hkind, textOf_classNameNode hkind (h _ hnode), rfl⟩
      · -- the cursor is on an identifier, and the name around it occurs
        have hmem : m ∈ s.nodes :=
          hlineage.mem_preorder m (List.mem_cons_of_mem _ (List.mem_of_head? hm))
        obtain ⟨hspells, hself, -, -⟩ := h m hmem hclass _ (hlineage.mem_children hm) hkind
        exact ⟨m, hmem, hclass, by rw [hspells], by rw [hspells, hself]⟩
    · cases hid
  · exact renameAgrees_of_ne_className fun text n htarget => hclass ⟨text, n, htarget⟩

/-- Whatever can be renamed has a range to show before that. -/
theorem isSome_renameRange?_of_rename? {uri name : String} {p : Position}
    (h : (s.rename? uri p name).isSome) : (s.renameRange? p).isSome := by
  cases htarget : s.targetAt? p with
  | none => simp [rename?, htarget] at h
  | some found =>
    obtain ⟨target, n⟩ := found
    cases target <;> simp [renameRange?, htarget]

/-- **What is shown before renaming.** It agrees with what is edited, listed and highlighted if and
only if a class under the cursor is spelled, somewhere in the stylesheet, like the node there and at
the range that is shown. This is so if the names of all classes are plainly spelled. Whatever can be
renamed also has a range to show. -/
theorem renameAgrees_iff (s : Sheet) (uri : String) (p : Position) (name : String) :
    (s.RenameAgrees uri p name ↔
      ∀ text n, s.targetAt? p = some (.className text, n) →
        ∃ c ∈ s.nodes, c.kind = "class_name" ∧ s.textOf (classNameNode c).info = text ∧
          s.rangeOf (classNameNode c).info = s.rangeOf (classNameNode n).info) ∧
      ((∀ n ∈ s.nodes, n.PlainlySpelled) → s.RenameAgrees uri p name) ∧
      ((s.rename? uri p name).isSome → (s.renameRange? p).isSome) := by
  refine ⟨⟨?_, ?_⟩, renameAgrees_of_plainlySpelled, isSome_renameRange?_of_rename?⟩
  · intro h text n htarget
    exact (renameAgrees_className_iff htarget).mp h
  · intro h
    by_cases hclass : ∃ text n, s.targetAt? p = some (.className text, n)
    · obtain ⟨text, n, htarget⟩ := hclass
      exact (renameAgrees_className_iff htarget).mpr (h text n htarget)
    · exact renameAgrees_of_ne_className fun text n htarget => hclass ⟨text, n, htarget⟩

/-- A class whose name has an escaped character between two identifiers. -/
def escapedSample : Sheet where
  text := ".a\\:b \x7b \x7d".toList
  tree :=
    { pins := []
      root :=
        .sample "stylesheet" true 0 9 [
          .sample "rule_set" true 0 9 [
            .sample "selectors" true 0 5 [
              .sample "class_selector" true 0 5 [
                .sample "." false 0 1 [],
                .sample "class_name" true 1 5 [
                  .sample "identifier" true 1 2 [],
                  .sample "escape_sequence" true 2 4 [],
                  .sample "identifier" true 4 5 []]]],
            .sample "block" true 6 9 [
              .sample "\x7b" false 6 7 [],
              .sample "\x7d" false 8 9 []]]] }

/-- The second identifier of an escaped name has a range to show before renaming, but nothing is
edited, listed or highlighted. -/
theorem not_renameAgrees_escaped :
    escapedSample.tree.root.WellFormed escapedSample.text ∧
      escapedSample.renameRange? ⟨0, 4⟩ = some ⟨⟨0, 4⟩, ⟨0, 5⟩⟩ ∧
      escapedSample.rename? "untitled:1" ⟨0, 4⟩ "c" = none ∧
      escapedSample.references "untitled:1" ⟨0, 4⟩ true = [] ∧
      escapedSample.highlights ⟨0, 4⟩ = [] ∧
      ¬ escapedSample.RenameAgrees "untitled:1" ⟨0, 4⟩ "c" := by
  have hrange : escapedSample.renameRange? ⟨0, 4⟩ = some ⟨⟨0, 4⟩, ⟨0, 5⟩⟩ := by decide +kernel
  have hrename : escapedSample.rename? "untitled:1" ⟨0, 4⟩ "c" = none := by decide +kernel
  refine ⟨by decide +kernel, hrange, hrename, by decide +kernel, by decide +kernel, ?_⟩
  intro h
  have hsome := h.isSome_iff
  rw [hrange, hrename] at hsome
  simp at hsome

end Sheet

end CssFragments
