import CssFragments.Proofs.Answerable
import CssFragments.Proofs.DeclaredValue
import CssFragments.Proofs.RenameEdits
import CssFragments.Proofs.Text.Order

/-! # Custom properties in completions, definitions and hovers

The names that are offered after `var(` are collected from all nodes that are names of properties.
The definition of a custom property is the first such node, and a hover shows the value of the first
declaration whose first child is one. So these agree as long as properties are named nowhere but at
the start of declarations.

* `Sheet.IsNameOf`, `Sheet.DeclaresBy`, `Sheet.FirstDeclaration`: the names of properties and their
  declarations.
* `Node.NamesFirst`: a node has the name of a property below it only as a declaration.
* `Sheet.find?_isNameOf`: the first name of a property is that in its first declaration.
* `Sheet.mem_customProperties_iff`, `Sheet.pairwise_customProperties`,
  `Sheet.labels_of_complete`: the names that are offered.
* `Sheet.definition?_eq`, `Sheet.hover?_eq`: definitions and hovers of custom properties.
* `Sheet.customProperties_agree`: how all of these go together. -/

namespace CssFragments

/-- Of the nodes right below, only the first may be the name of a property, and only in a
declaration. -/
structure Node.NamesFirst (n : Node) : Prop where
  kind_tail : ∀ c ∈ n.children.tail, c.kind ≠ "property_name"
  kind_eq : ∀ c ∈ n.children.head?, c.kind = "property_name" → n.kind = "declaration"

instance (n : Node) : Decidable n.NamesFirst :=
  decidable_of_iff
    ((∀ c ∈ n.children.tail, c.kind ≠ "property_name") ∧
      ∀ c ∈ n.children.head?, c.kind = "property_name" → n.kind = "declaration")
    ⟨fun ⟨htail, hhead⟩ => ⟨htail, hhead⟩, fun ⟨htail, hhead⟩ => ⟨htail, hhead⟩⟩

/-- Two searches give the same in several trees if they do in each of them. -/
theorem Node.find?_preorderAll {p : Node → Bool} {f : Node → Option Node} {ns : List Node}
    (h : ∀ n ∈ ns, n.preorder.find? p = n.preorder.findSome? f) :
    (preorderAll ns).find? p = (preorderAll ns).findSome? f := by
  induction ns with
  | nil => rfl
  | cons n rest ih =>
    obtain ⟨hn, hrest⟩ := List.forall_mem_cons.mp h
    rw [preorderAll, List.find?_append, List.findSome?_append, hn, ih hrest]

namespace Sheet

variable {s : Sheet} {name : Text}

/-! ## Names and declarations -/

/-- The node is the name of a property where it is given a value. -/
def IsNameOf (s : Sheet) (name : Text) (q : Node) : Prop :=
  q.kind = "property_name" ∧ s.textOf q.info = name

instance (s : Sheet) (name : Text) : DecidablePred (s.IsNameOf name) := fun q =>
  inferInstanceAs (Decidable (q.kind = "property_name" ∧ s.textOf q.info = name))

/-- A declaration of a property, by its first child. -/
structure DeclaresBy (s : Sheet) (name : Text) (d q : Node) : Prop where
  kind_eq : d.kind = "declaration"
  head?_eq : d.children.head? = some q
  isNameOf : s.IsNameOf name q

/-- A declaration of a property before which there is none, in the order of the text. -/
structure FirstDeclaration (s : Sheet) (name : Text) (d q : Node) : Prop where
  declaresBy : s.DeclaresBy name d q
  first : ∃ before after, s.nodes = before ++ d :: after ∧
    ∀ m ∈ before, ∀ r, ¬ s.DeclaresBy name m r

theorem declares_iff {d : Node} : s.declares name d ↔ ∃ q, s.DeclaresBy name d q := by
  obtain ⟨i, cs⟩ := d
  cases cs with
  | nil =>
    refine ⟨fun h => ?_, fun ⟨q, h⟩ => absurd h.head?_eq (by simp [Node.children])⟩
    simp [declares, propertyOf?, Node.children] at h
  | cons q rest =>
    constructor
    · intro h
      simp only [declares, propertyOf?, Node.children, Bool.and_eq_true, beq_iff_eq] at h
      obtain ⟨hkind, h⟩ := h
      by_cases hq : q.kind = "property_name"
      · rw [if_pos hq] at h
        exact ⟨q, hkind, rfl, hq, by simpa using h⟩
      · simp [hq] at h
    · rintro ⟨r, hkind, hhead, hr⟩
      obtain rfl := Option.some.inj hhead
      simp [declares, propertyOf?, Node.children, hkind, hr.1, hr.2]

/-- The name in a declaration of a property. -/
def declaredName? (s : Sheet) (name : Text) (d : Node) : Option Node :=
  if s.declares name d then d.children.head? else none

theorem declaredName?_eq_some_iff {d q : Node} :
    s.declaredName? name d = some q ↔ s.DeclaresBy name d q := by
  rw [declaredName?, Option.ite_none_right_eq_some, declares_iff]
  refine ⟨?_, fun h => ⟨⟨q, h⟩, h.head?_eq⟩⟩
  rintro ⟨⟨r, hr⟩, hq⟩
  obtain rfl := Option.some.inj (hr.head?_eq.symm.trans hq)
  exact hr

theorem declaredName?_eq_none_iff {d : Node} :
    s.declaredName? name d = none ↔ ∀ q, ¬ s.DeclaresBy name d q := by
  simp only [Option.eq_none_iff_forall_ne_some, ne_eq, declaredName?_eq_some_iff]

/-- A node that does not declare a property does not have its name right below. -/
theorem not_isNameOf_of_mem_children {n c : Node} (hn : n.NamesFirst)
    (hdeclares : ∀ q, ¬ s.DeclaresBy name n q) (hc : c ∈ n.children) : ¬ s.IsNameOf name c := by
  intro hname
  obtain ⟨i, cs⟩ := n
  cases cs with
  | nil => cases hc
  | cons q rest =>
    rcases List.mem_cons.mp hc with rfl | hrest
    · exact hdeclares c ⟨hn.kind_eq c rfl hname.1, rfl, hname⟩
    · exact hn.kind_tail c hrest hname.1

/-- **The first name of a property is that in its first declaration.** -/
theorem find?_isNameOf {n : Node} (hroot : ¬ s.IsNameOf name n)
    (hnames : ∀ m ∈ n.preorder, m.NamesFirst) :
    n.preorder.find? (s.IsNameOf name ·) = n.preorder.findSome? (s.declaredName? name) := by
  induction n with
  | node i cs ih =>
    have hn := hnames _ (Node.mem_preorder_self _)
    rw [Node.preorder, List.find?_cons_of_neg (by simpa using hroot), List.findSome?_cons]
    cases hname : s.declaredName? name (.node i cs) with
    | some q =>
      -- the name stands right behind its declaration
      have hq := declaredName?_eq_some_iff.mp hname
      obtain ⟨rest, rfl⟩ := List.head?_eq_some_iff.mp hq.head?_eq
      rw [Node.preorderAll, Node.preorder_eq_cons, List.cons_append,
        List.find?_cons_of_pos (by simpa using hq.isNameOf)]
    | none =>
      -- then none of the children is the name, and the search goes on below each of them
      have hdeclares := declaredName?_eq_none_iff.mp hname
      show (Node.preorderAll cs).find? _ = (Node.preorderAll cs).findSome? _
      refine Node.find?_preorderAll fun c hc => ih c hc ?_ fun m hm => hnames m ?_
      · exact not_isNameOf_of_mem_children hn hdeclares hc
      · exact List.mem_cons_of_mem _ (Node.mem_preorderAll_iff.mpr ⟨c, hc, hm⟩)

section

variable (hroot : s.tree.root.kind ≠ "property_name") (hnames : ∀ n ∈ s.nodes, n.NamesFirst)

include hroot hnames

theorem find?_nodes_isNameOf (name : Text) :
    s.nodes.find? (s.IsNameOf name ·) = s.nodes.findSome? (s.declaredName? name) :=
  find?_isNameOf (fun h => hroot h.1) hnames

/-- Where there is a name there is a declaration, and the first ones go together. -/
theorem exists_firstDeclaration {q : Node} (h : s.nodes.find? (s.IsNameOf name ·) = some q) :
    ∃ d, s.nodes.find? (s.declares name) = some d ∧ s.FirstDeclaration name d q := by
  rw [find?_nodes_isNameOf hroot hnames] at h
  obtain ⟨before, d, after, hsplit, hd, hbefore⟩ := List.findSome?_eq_some_iff.mp h
  have hdeclares := declaredName?_eq_some_iff.mp hd
  have hfirst : ∀ m ∈ before, ∀ r, ¬ s.DeclaresBy name m r := fun m hm =>
    declaredName?_eq_none_iff.mp (hbefore m hm)
  refine ⟨d, ?_, hdeclares, before, after, hsplit, hfirst⟩
  refine List.find?_eq_some_iff_append.mpr
    ⟨declares_iff.mpr ⟨q, hdeclares⟩, before, after, hsplit, fun m hm => ?_⟩
  have hm' : ¬ s.declares name m := fun hm' => by
    obtain ⟨r, hr⟩ := declares_iff.mp hm'
    exact hfirst m hm r hr
  simpa using hm'

end

/-- What is not named is not declared. -/
theorem find?_declares_eq_none (h : s.nodes.find? (s.IsNameOf name ·) = none) :
    s.nodes.find? (s.declares name) = none := by
  refine List.find?_eq_none.mpr fun d hd hdeclares => ?_
  obtain ⟨q, hq⟩ := declares_iff.mp hdeclares
  have hmem : q ∈ s.nodes :=
    Node.mem_preorder_of_mem_children hd (List.mem_of_mem_head? hq.head?_eq)
  exact absurd hq.isNameOf (by simpa using List.find?_eq_none.mp h q hmem)

/-! ## Names that are offered -/

theorem mem_foldl_insertInto {us names : List Text} :
    name ∈ us.foldl (fun names u => u.insertInto names) names ↔ name ∈ us ∨ name ∈ names := by
  induction us generalizing names with
  | nil => simp
  | cons u us ih =>
    rw [List.foldl_cons, ih, Text.mem_insertInto, List.mem_cons]
    tauto

theorem pairwise_foldl_insertInto {us names : List Text} (h : names.Pairwise (· < ·)) :
    (us.foldl (fun names u => u.insertInto names) names).Pairwise (· < ·) := by
  induction us generalizing names with
  | nil => exact h
  | cons u us ih => exact ih (Text.pairwise_insertInto h)

/-- The names that are collected are those of custom properties. -/
theorem mem_customProperties_iff :
    name ∈ s.customProperties ↔ isCustom name ∧ ∃ q ∈ s.nodes, s.IsNameOf name q := by
  rw [customProperties, mem_foldl_insertInto]
  simp only [IsNameOf, List.mem_filter, List.mem_map, List.not_mem_nil, or_false, beq_iff_eq,
    and_assoc]
  exact and_comm

/-- A custom property is among them if there is a first name of it. -/
theorem mem_customProperties_iff_isSome (h : isCustom name) :
    name ∈ s.customProperties ↔ (s.nodes.find? (s.IsNameOf name ·)).isSome := by
  rw [mem_customProperties_iff, List.find?_isSome]
  simp [h]

/-- They are in order, and none is there twice. -/
theorem pairwise_customProperties (s : Sheet) : s.customProperties.Pairwise (· < ·) :=
  pairwise_foldl_insertInto .nil

/-- **What is offered after `var(`** are these names. -/
theorem labels_of_complete {p : Position} {l : CompletionList}
    (hopening : CompletionContext.referenceOpening <:+ (s.text.upTo p).beforeLastWord)
    (h : s.complete p = .ok l) :
    l.items.map (·.label) = s.customProperties.map String.ofList := by
  have hcontext : CompletionContext.ofText (s.text.upTo p).beforeLastWord = .reference :=
    if_pos (List.isSuffixOf_iff_suffix.mpr hopening)
  rw [complete, hcontext] at h
  cases hsub : Coordinate.sub p.character (s.text.upTo p).lastWord.length with
  | error e =>
    rw [hsub] at h
    cases h
  | ok start =>
    rw [hsub] at h
    obtain rfl := Except.ok.inj h
    show (s.customProperties.map _).map _ = _
    rw [List.map_map]
    rfl

/-! ## Definitions and hovers -/

section

variable {p : Position} {n : Node}

theorem occurrenceOf?_of_isNameOf {q : Node} (h : s.IsNameOf name q) :
    s.occurrenceOf? (.customProperty name) q = some ⟨s.rangeOf q.info, true⟩ := by
  obtain ⟨hkind, htext⟩ := h
  simp [occurrenceOf?, hkind, htext]

/-- A custom property is defined by its names. -/
theorem any_occurrenceOf? (q : Node) :
    (s.occurrenceOf? (.customProperty name) q).any (·.isDefinition) =
      decide (s.IsNameOf name q) := by
  by_cases h : s.IsNameOf name q
  · rw [occurrenceOf?_of_isNameOf h, decide_eq_true h]
    rfl
  · rw [decide_eq_false h]
    simp only [occurrenceOf?]
    split
    · next hname hkind =>
      obtain rfl := Target.customProperty.inj hname
      rw [if_neg fun htext => h ⟨hkind, htext⟩]
      rfl
    · split <;> rfl
    · next hname _ => cases hname
    · next hname _ => cases hname
    · rfl

/-- **The definition of a custom property** is the first node that is its name. -/
theorem definition?_eq (uri : String) (h : s.targetAt? p = some (.customProperty name, n)) :
    s.definition? uri p =
      (s.nodes.find? (s.IsNameOf name ·)).map fun q => ⟨uri, s.rangeOf q.info⟩ := by
  rw [definition?, h]
  simp only [occurrences, List.find?_filterMap, any_occurrenceOf?]
  cases hq : s.nodes.find? (s.IsNameOf name ·) with
  | none => rfl
  | some q =>
    have hname : s.IsNameOf name q := by simpa using List.find?_some hq
    simp [occurrenceOf?_of_isNameOf hname]

/-- **The hover of a custom property** explains it by its declaration. -/
theorem hover?_eq (h : s.targetAt? p = some (.customProperty name, n)) :
    s.hover? p = s.explainCustom n.info name := by
  obtain ⟨htarget, rfl⟩ := targetAt?_eq_some_iff.mp h
  have hcustom := isCustom_of_targetOf? htarget
  rcases targetOf?_cases htarget with ⟨hkind, heq⟩ | ⟨-, heq⟩ | ⟨-, heq⟩
  · obtain rfl := Target.customProperty.inj heq
    rcases hkind with hkind | hkind
    all_goals
      rw [Node.kind] at hkind
      simp only [hover?, hkind, hcustom, if_true]
  · cases heq
  · cases heq

end

theorem propertyOf?_of_declaresBy {d q : Node} (h : s.DeclaresBy name d q) :
    propertyOf? d.children = some q.info := by
  obtain ⟨rest, hrest⟩ := List.head?_eq_some_iff.mp h.head?_eq
  rw [hrest, propertyOf?, if_pos h.isNameOf.1]

/-- What is not declared is not explained. -/
theorem hover?_of_find?_eq_none {p : Position} {n : Node}
    (h : s.targetAt? p = some (.customProperty name, n))
    (hd : s.nodes.find? (s.declares name) = none) : s.hover? p = .ok none := by
  have hvalue : s.declaredValue name = .ok none := by rw [declaredValue, hd]
  rw [hover?_eq h, explainCustom, hvalue]
  rfl

/-- The explanation has the value from the first declaration. -/
theorem hover?_of_find?_eq_some {p : Position} {n d q : Node} {rest : Text}
    (h : s.targetAt? p = some (.customProperty name, n))
    (hd : s.nodes.find? (s.declares name) = some d) (hq : s.DeclaresBy name d q)
    (hrest : s.text.slice? q.info.stop d.info.stop = some rest) :
    s.hover? p = .ok (some (s.explain n.info
      ("```css\n" ++ String.ofList name ++ ": " ++ String.ofList (valuePart rest) ++
        "\n```"))) := by
  have hvalue : s.declaredValue name = .ok (some (valuePart rest)) := by
    simp only [declaredValue, hd, propertyOf?_of_declaresBy hq, hrest]
  rw [hover?_eq h, explainCustom, hvalue]
  rfl

/-- **Completions, definitions and hovers agree on custom properties**, if properties are named
nowhere but at the start of declarations. The names that are offered after `var(` are in the order
of their bytes, and are all texts of names of properties that start with two hyphens. The custom
property under a cursor has a definition and an explanation if and only if it is among them. Then
both are about its first declaration: the definition is the name there, and the explanation has the
one value that the text behind that name gives it. -/
theorem customProperties_agree {s : Sheet} (uri : String)
    (hroot : s.tree.root.kind ≠ "property_name") (hnames : ∀ n ∈ s.nodes, n.NamesFirst)
    (hplaced : ∀ n ∈ s.nodes, n.Placed s.text) :
    let names := s.customProperties
    (∀ p, CompletionContext.referenceOpening <:+ (s.text.upTo p).beforeLastWord →
      (p.line ≤ s.text.endPosition.line → ∃ l, s.complete p = .ok l) ∧
        ∀ l, s.complete p = .ok l → l.items.map (·.label) = names.map String.ofList) ∧
      names.Pairwise (fun a b => a.utf8 < b.utf8) ∧ names.Nodup ∧
      (∀ name, name ∈ names ↔ ∃ q ∈ s.nodes,
        q.kind = "property_name" ∧ s.textOf q.info = name ∧ ['-', '-'] <+: name) ∧
      ∀ p name n, s.targetAt? p = some (.customProperty name, n) →
        ((s.definition? uri p).isSome ↔ name ∈ names) ∧
          (∃ h, s.hover? p = .ok h ∧ (h.isSome ↔ name ∈ names)) ∧
          (name ∈ names → ∃ d q rest value, s.FirstDeclaration name d q ∧
            s.definition? uri p = some ⟨uri, s.rangeOf q.info⟩ ∧
            s.text.slice? q.info.stop d.info.stop = some rest ∧
            (∀ v, IsValueOf rest v ↔ v = value) ∧
            s.hover? p = .ok (some (s.explain n.info
              ("```css\n" ++ String.ofList name ++ ": " ++ String.ofList value ++ "\n```")))) := by
  intro names
  have hsorted := s.pairwise_customProperties
  refine ⟨fun p hopening => ⟨fun hline => ⟨_, complete_eq hline⟩,
    fun l hl => labels_of_complete hopening hl⟩, hsorted.imp Text.utf8_lt_utf8_iff.mpr,
    hsorted.imp ne_of_lt, fun name => ?_, fun p name n htarget => ?_⟩
  · rw [mem_customProperties_iff, isCustom_iff]
    simp only [IsNameOf]
    tauto
  · obtain ⟨htargetOf, -⟩ := targetAt?_eq_some_iff.mp htarget
    have hmem := mem_customProperties_iff_isSome (s := s) (isCustom_of_targetOf? htargetOf)
    refine ⟨by rw [definition?_eq uri htarget, Option.isSome_map, hmem], ?_⟩
    cases hfind : s.nodes.find? (s.IsNameOf name ·) with
    | none =>
      have hnot : name ∉ names := fun h => by simpa [hfind] using hmem.mp h
      have hhover := hover?_of_find?_eq_none htarget (find?_declares_eq_none hfind)
      exact ⟨⟨none, hhover, iff_of_false (by simp) hnot⟩, fun h => absurd h hnot⟩
    | some q =>
      have hoffered : name ∈ names := hmem.mpr (by rw [hfind]; rfl)
      obtain ⟨d, hd, hfirst⟩ := exists_firstDeclaration hroot hnames hfind
      -- what follows the name in the declaration is there, since nodes cover whole characters
      obtain ⟨rest, hrest⟩ := Option.isSome_iff_exists.mp (isSome_slice?_of_propertyOf? hplaced
        (List.mem_of_find?_eq_some hd) (propertyOf?_of_declaresBy hfirst.declaresBy))
      have hhover := hover?_of_find?_eq_some htarget hd hfirst.declaresBy hrest
      refine ⟨⟨_, hhover, iff_of_true rfl hoffered⟩,
        fun _ => ⟨d, q, rest, valuePart rest, hfirst, ?_, hrest, fun _ => isValueOf_iff, hhover⟩⟩
      rw [definition?_eq uri htarget, hfind]
      rfl

/-- A stylesheet that declares one custom property twice and refers to it. -/
def referenceSample : Sheet where
  text := "a\x7b--b:1;--a: 2;c:var(--b)\x7dd\x7b--b:3\x7d".toList
  tree :=
    { pins := []
      root :=
        .sample "stylesheet" true 0 34 [
          .sample "rule_set" true 0 26 [
            .sample "selectors" true 0 1 [],
            .sample "block" true 1 26 [
              .sample "\x7b" false 1 2 [],
              .sample "declaration" true 2 8 [
                .sample "property_name" true 2 5 [],
                .sample ":" false 5 6 [],
                .sample "integer_value" true 6 7 [],
                .sample ";" false 7 8 []],
              .sample "declaration" true 8 15 [
                .sample "property_name" true 8 11 [],
                .sample ":" false 11 12 [],
                .sample "integer_value" true 13 14 [],
                .sample ";" false 14 15 []],
              .sample "declaration" true 15 25 [
                .sample "property_name" true 15 16 [],
                .sample ":" false 16 17 [],
                .sample "call_expression" true 17 25 [
                  .sample "function_name" true 17 20 [],
                  .sample "arguments" true 20 25 [
                    .sample "(" false 20 21 [],
                    .sample "plain_value" true 21 24 [],
                    .sample ")" false 24 25 []]]],
              .sample "\x7d" false 25 26 []]],
          .sample "rule_set" true 26 34 [
            .sample "selectors" true 26 27 [],
            .sample "block" true 27 34 [
              .sample "\x7b" false 27 28 [],
              .sample "declaration" true 28 33 [
                .sample "property_name" true 28 31 [],
                .sample ":" false 31 32 [],
                .sample "integer_value" true 32 33 []],
              .sample "\x7d" false 33 34 []]]] }

/-- Both names are offered, and a cursor on the reference is led to the first declaration and shown
the value from there. -/
theorem customProperties_agree_sample :
    let s := referenceSample
    let name := "--b".toList
    (s.tree.root.kind ≠ "property_name" ∧ (∀ n ∈ s.nodes, n.NamesFirst) ∧
        ∀ n ∈ s.nodes, n.Placed s.text) ∧
      (∃ l, s.complete ⟨0, 22⟩ = .ok l ∧ l.items.map (·.label) = ["--a", "--b"]) ∧
      s.hover? ⟨0, 22⟩ =
        .ok (some ⟨.markup "markdown" "```css\n--b: 1\n```", some ⟨⟨0, 21⟩, ⟨0, 24⟩⟩⟩) ∧
      ∃ d q rest, s.FirstDeclaration name d q ∧ s.rangeOf q.info = ⟨⟨0, 2⟩, ⟨0, 5⟩⟩ ∧
        s.definition? "untitled:1" ⟨0, 22⟩ = some ⟨"untitled:1", s.rangeOf q.info⟩ ∧
        s.text.slice? q.info.stop d.info.stop = some rest ∧ IsValueOf rest ['1'] := by
  intro s name
  have hroot : s.tree.root.kind ≠ "property_name" := by decide +kernel
  have hnames : ∀ n ∈ s.nodes, n.NamesFirst := by decide +kernel
  have hplaced : ∀ n ∈ s.nodes, n.Placed s.text := by decide +kernel
  have htarget : (s.targetAt? ⟨0, 22⟩).map Prod.fst = some (.customProperty name) := by
    decide +kernel
  have hoffered : s.customProperties = ["--a".toList, name] := by decide +kernel
  have hdefinition : s.definition? "untitled:1" ⟨0, 22⟩ =
      some ⟨"untitled:1", ⟨⟨0, 2⟩, ⟨0, 5⟩⟩⟩ := by decide +kernel
  have hhover : s.hover? ⟨0, 22⟩ =
      .ok (some ⟨.markup "markdown" "```css\n--b: 1\n```", some ⟨⟨0, 21⟩, ⟨0, 24⟩⟩⟩) := by
    decide +kernel
  obtain ⟨hcomplete, -, -, -, hagree⟩ := customProperties_agree "untitled:1" hroot hnames hplaced
  obtain ⟨⟨target, n⟩, ht, htarget⟩ := Option.map_eq_some_iff.mp htarget
  obtain rfl : target = _ := htarget
  have hmem : name ∈ s.customProperties := by
    rw [hoffered]
    decide
  obtain ⟨-, -, hfirst⟩ := hagree _ _ _ ht
  obtain ⟨d, q, rest, value, hfirst, hdefinition', hrest, hvalue, hhover'⟩ := hfirst hmem
  obtain ⟨hanswered, hlabels⟩ := hcomplete ⟨0, 22⟩ (by decide +kernel)
  obtain ⟨l, hl⟩ := hanswered (by decide +kernel)
  refine ⟨⟨hroot, hnames, hplaced⟩, ⟨l, hl, ?_⟩, hhover, d, q, rest, hfirst, ?_, hdefinition',
    hrest, (hvalue _).mpr ?_⟩
  · rw [hlabels l hl, hoffered]
    rfl
  · simpa using hdefinition'.symm.trans hdefinition
  · -- the value is the one that is shown
    have hshown := hhover'.symm.trans hhover
    simp only [explain, Except.ok.injEq, Option.some.injEq, Hover.mk.injEq,
      HoverContents.markup.injEq, true_and] at hshown
    have htext : value ++ "\n```".toList = ['1'] ++ "\n```".toList := by
      simpa [name] using congrArg String.toList hshown.1
    exact (List.append_cancel_right htext).symm

end Sheet

end CssFragments
