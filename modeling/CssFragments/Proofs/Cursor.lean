import CssFragments.Proofs.RenameEdits

/-! # Symbols under cursors

A cursor may be anywhere in a name or right behind it, and what an editor is told about the symbol
there should not depend on that. The tree is asked for the node behind the cursor, and for the one
before it if no word goes on there. Both times all nodes around matter, since the way down leads
through them.

* `Node.Covers`, `Node.exists_descend_eq_append`: the way down to an offset leads to each node that
  covers it.
* `Sheet.Searchable`: trees whose nodes can be found that way.
* `Sheet.namedAt_of_leaf`, `Sheet.exists_underCursor_eq`: the nodes found at offsets in a name, and
  under a cursor on it.
* `Sheet.namingNode`, `Sheet.targetOf?_of_spelled`: the node that spells a symbol names it.
* `Sheet.CursorOn`, `Sheet.AmidWord`: cursors on a name, and those in the middle of a word.
* `Sheet.answers_stable`: the symbol is the same under all cursors on its name. -/

namespace CssFragments

/-! ## The way down to a node -/

namespace Node

variable {t : Text} {b : Nat}

/-- The byte at an offset is one of those that a node covers. -/
def Covers (b : Nat) (n : Node) : Prop := n.info.start ≤ b ∧ b < n.info.stop

theorem Covers.of_within {m n : Node} (h : m.Covers b)
    (hwithin : n.info.start ≤ m.info.start ∧ m.info.stop ≤ n.info.stop) : n.Covers b :=
  ⟨le_trans hwithin.1 h.1, lt_of_lt_of_le h.2 hwithin.2⟩

/-- Among siblings, the way down leads to the one that covers the offset. -/
theorem descendAll_of_covers {ns : List Node} {c : Node}
    (horderly : ns.Pairwise fun a b => a.info.stop ≤ b.info.start)
    (hfull : ∀ n ∈ ns, n.info.start < n.info.stop) (hc : c ∈ ns) (hb : c.Covers b) :
    descendAll b ns = c.descend b := by
  obtain ⟨hstart, hstop⟩ := hb
  induction ns with
  | nil => cases hc
  | cons n rest ih =>
    rw [List.pairwise_cons] at horderly
    rw [descendAll]
    rcases List.mem_cons.mp hc with rfl | hrest
    · have hreaches : c.reaches b := by simp [reaches, hstop]
      rw [if_pos hreaches, if_neg (not_lt.mpr hstart)]
    · -- the siblings before the one that is looked for end before the offset
      have hbefore : n.info.stop ≤ b := le_trans (horderly.1 c hrest) hstart
      have hn : n.info.start < n.info.stop := hfull n List.mem_cons_self
      have hpasses : ¬ n.reaches b := by
        simp only [reaches, Bool.or_eq_true, decide_eq_true_eq, Bool.and_eq_true, beq_iff_eq]
        omega
      rw [if_neg hpasses]
      exact ih horderly.2 (fun m hm => hfull m (List.mem_cons_of_mem _ hm)) hrest

/-- From a node, the way down leads to the child that covers the offset. -/
theorem descend_of_covers {n c : Node} (horderly : n.Orderly)
    (hfull : ∀ m ∈ n.children, m.info.start < m.info.stop) (hc : c ∈ n.children)
    (hb : c.Covers b) : n.descend b = n :: c.descend b := by
  cases n with
  | node i cs => exact congrArg _ (descendAll_of_covers horderly hfull hc hb)

/-- **The way down to an offset leads to each node that covers it**, and goes on from there. -/
theorem exists_descend_eq_append {root n : Node} (hwf : root.WellFormed t)
    (hfull : ∀ m ∈ root.preorder, m.info.start < m.info.stop) (hn : n ∈ root.preorder)
    (hb : n.Covers b) : ∃ above, root.descend b = above ++ n.descend b := by
  induction root with
  | node i cs ih =>
    rw [preorder] at hn
    rcases List.mem_cons.mp hn with rfl | hbelow
    · exact ⟨[], rfl⟩
    · obtain ⟨c, hc, hnc⟩ := mem_preorderAll_iff.mp hbelow
      have hwfc : c.WellFormed t := hwf.row.wellFormed c hc
      have hbelow : ∀ d ∈ cs, ∀ m ∈ d.preorder, m.info.start < m.info.stop := fun d hd m hm =>
        hfull m (List.mem_cons_of_mem _ (mem_preorderAll_iff.mpr ⟨d, hd, hm⟩))
      -- the child covers what the node below it covers
      have hcovers : c.Covers b := hb.of_within (hwfc.within_of_mem_preorder hnc)
      have hstep : (node i cs).descend b = node i cs :: c.descend b :=
        descend_of_covers hwf.row.orderly (fun d hd => hbelow d hd d d.mem_preorder_self) hc hcovers
      obtain ⟨above, habove⟩ := ih c hc hwfc (hbelow c hc) hnc
      exact ⟨node i cs :: above, by rw [hstep, habove, List.cons_append]⟩

theorem descend_of_children_eq_nil {n : Node} (h : n.children = []) : n.descend b = [n] := by
  cases n with
  | node i cs =>
    obtain rfl : cs = [] := h
    rfl

end Node

/-- A way down that ends at a node with a name is kept as it is. -/
theorem Tree.toNamed_of_named {n : Node} {above : List Node} (h : n.info.named) :
    Tree.toNamed (n :: above) = n :: above := by
  cases above with
  | nil => rfl
  | cons m rest => exact if_pos h

/-- Only nodes at the end of a way down are left out. -/
theorem Tree.toNamed_suffix (path : List Node) : Tree.toNamed path <:+ path := by
  fun_induction Tree.toNamed path with
  | case1 => exact List.suffix_rfl
  | case2 n => exact List.suffix_rfl
  | case3 n above _ _ => exact List.suffix_rfl
  | case4 n above _ _ ih => exact ih.trans (List.suffix_cons n above)

/-! ## The node under a cursor -/

/-- The kinds of the nodes that spell symbols. -/
def namingKinds : List String :=
  ["property_name", "plain_value", "class_name", "id_name", "identifier"]

/-- The kinds of the nodes where a symbol occurs. -/
def Target.kinds : Target → List String
  | customProperty _ => ["property_name", "plain_value"]
  | className _ => ["class_name"]
  | idName _ => ["id_name"]

/-- All nodes that spell symbols are words. -/
theorem Node.isWord_of_kind_mem {n : Node} (h : n.kind ∈ namingKinds) : n.isWord := by
  have hsub : ∀ kind ∈ namingKinds, wordKinds.contains kind := by decide
  exact hsub _ h

namespace Sheet

variable {s : Sheet}

/-- A well-formed tree in which no node is empty, the nodes that spell symbols have names of their
own, and the innermost node with a name at an offset is the one that is found on the way down. -/
structure Searchable (s : Sheet) : Prop where
  wellFormed : s.tree.root.WellFormed s.text
  start_lt_stop : ∀ n ∈ s.nodes, n.info.start < n.info.stop
  named : ∀ n ∈ s.nodes, n.kind ∈ namingKinds → n.info.named
  path_namedAt : ∀ b, (s.tree.namedAt b).path = Tree.toNamed (s.tree.root.descend b).reverse

/-- A way down that ends at a node with a name leads there and keeps the nodes around. -/
theorem namedAt_of_descend (h : s.Searchable) {b : Nat} {m : Node} {above : List Node}
    (hnamed : m.info.named) (hdescend : s.tree.root.descend b = above ++ [m]) :
    s.tree.namedAt b = ⟨m, above.reverse⟩ := by
  have hpath : (s.tree.namedAt b).path = m :: above.reverse := by
    rw [h.path_namedAt, hdescend, List.reverse_append, List.reverse_singleton,
      List.singleton_append, Tree.toNamed_of_named hnamed]
  obtain ⟨hnode, hancestors⟩ := List.cons.inj hpath
  rw [← hnode, ← hancestors]

/-- **What is found at the offsets of a leaf** is the leaf, together with its parent. -/
theorem namedAt_of_leaf (h : s.Searchable) {n m : Node} (hn : n ∈ s.nodes)
    (hm : m = n ∨ m ∈ n.children) (hnamed : m.info.named) (hleaf : m.children = []) {b : Nat}
    (hb : m.Covers b) :
    (s.tree.namedAt b).node = m ∧ (m = n ∨ (s.tree.namedAt b).parent? = some n) := by
  have hend : m.descend b = [m] := Node.descend_of_children_eq_nil hleaf
  rcases hm with rfl | hchild
  · obtain ⟨above, habove⟩ := Node.exists_descend_eq_append h.wellFormed h.start_lt_stop hn hb
    rw [hend] at habove
    rw [namedAt_of_descend h hnamed habove]
    exact ⟨rfl, .inl rfl⟩
  · -- the way down to the child leads through the node around it
    have hcovers : n.Covers b := hb.of_within ((h.wellFormed n hn).1.within m hchild)
    obtain ⟨above, habove⟩ :=
      Node.exists_descend_eq_append h.wellFormed h.start_lt_stop hn hcovers
    have hstep : n.descend b = n :: m.descend b :=
      Node.descend_of_covers (h.wellFormed n hn).2
        (fun c hc => h.start_lt_stop c (Node.mem_preorder_of_mem_children hn hc)) hchild hb
    have hdescend : s.tree.root.descend b = (above ++ [n]) ++ [m] := by
      rw [habove, hstep, hend, List.append_cons]
    rw [namedAt_of_descend h hnamed hdescend, List.reverse_append]
    exact ⟨rfl, .inr rfl⟩

/-- From the start of the root on, a node that is found at an offset starts there or before. -/
theorem start_namedAt_le (h : s.Searchable) {b : Nat} (hb : s.tree.root.info.start ≤ b) :
    (s.tree.namedAt b).node.info.start ≤ b := by
  have hmem : (s.tree.namedAt b).node ∈ s.tree.root.descend b := by
    have hpath : (s.tree.namedAt b).node ∈ Tree.toNamed (s.tree.root.descend b).reverse := by
      rw [← h.path_namedAt]
      exact List.mem_cons_self
    exact List.mem_reverse.mp ((Tree.toNamed_suffix _).subset hpath)
  rcases Node.covers_of_mem_descend hmem with hroot | ⟨hstart, -⟩
  · rw [hroot]
    exact hb
  · exact hstart

/-- The tree has a word at an offset that starts before. -/
def AmidWord (s : Sheet) (b : Nat) : Prop :=
  (s.tree.namedAt b).node.isWord ∧ (s.tree.namedAt b).node.info.start < b

instance (s : Sheet) (b : Nat) : Decidable (s.AmidWord b) := inferInstanceAs (Decidable (_ ∧ _))

/-- **Under a cursor in a word** or right behind it is what the tree has at an offset of the word,
unless another word goes on behind it. -/
theorem exists_underCursor_eq (h : s.Searchable) {m : Node} (hm : m ∈ s.nodes) (hword : m.isWord)
    (hfound : ∀ b, m.Covers b → (s.tree.namedAt b).node = m) {p : Position} {b : Nat}
    (hp : s.text.offsetAt p = b) (hstart : m.info.start < b) (hstop : b ≤ m.info.stop)
    (hfree : b = m.info.stop → ¬ s.AmidWord b) :
    ∃ a, m.Covers a ∧ s.underCursor p = s.tree.namedAt a := by
  rcases Nat.lt_or_eq_of_le hstop with hinside | hbehind
  · -- inside the word the tree has the word itself, and it does not start there
    have hcovers : m.Covers b := ⟨le_of_lt hstart, hinside⟩
    refine ⟨b, hcovers, ?_⟩
    have hstays : ¬ (0 < b && (m.info.start == b || !m.isWord)) := by
      simp [hword, ne_of_lt hstart]
    simp only [underCursor, hp, hfound b hcovers, if_neg hstays]
  · -- right behind it the tree is asked again, for what is before the cursor
    have hcovers : m.Covers (b - 1) := ⟨by omega, by omega⟩
    refine ⟨b - 1, hcovers, ?_⟩
    have hroot : s.tree.root.info.start ≤ b :=
      le_trans (h.wellFormed.within_of_mem_preorder hm).1 (le_of_lt hstart)
    have hhere := start_namedAt_le h hroot
    have hretries : 0 < b && ((s.tree.namedAt b).node.info.start == b ||
        !(s.tree.namedAt b).node.isWord) := by
      rw [Bool.and_eq_true, decide_eq_true_eq, Bool.or_eq_true, beq_iff_eq, Bool.not_eq_true']
      refine ⟨by omega, ?_⟩
      by_cases hother : (s.tree.namedAt b).node.isWord
      · have hnot : ¬ (s.tree.namedAt b).node.info.start < b :=
          fun hlt => hfree hbehind ⟨hother, hlt⟩
        exact .inl (by omega)
      · exact .inr (Bool.eq_false_of_not_eq_true hother)
    simp only [underCursor, hp, if_pos hretries, hfound _ hcovers, ← hbehind, hword,
      beq_self_eq_true, Bool.and_self, if_true]

/-! ## The symbol under a cursor -/

/-- The node that spells a symbol where it occurs. -/
def namingNode (target : Target) (n : Node) : Node :=
  match target with
  | .className _ => classNameNode n
  | _ => n

/-- The node that spells a symbol is the one where it occurs, or a child of it. -/
theorem namingNode_eq (target : Target) (n : Node) :
    namingNode target n = n ∨ namingNode target n ∈ n.children := by
  cases target with
  | className name => exact (classNameNode_eq n).imp_right And.left
  | customProperty name => exact .inl rfl
  | idName name => exact .inl rfl

/-- Where a symbol occurs, it has the text and the range of the node that spells it. -/
theorem spelled_of_occurrenceOf? {target : Target} {n : Node} {o : Occurrence}
    (h : s.occurrenceOf? target n = some o) :
    n.kind ∈ target.kinds ∧ s.textOf (namingNode target n).info = target.name ∧
      o.range = s.rangeOf (namingNode target n).info := by
  simp only [occurrenceOf?] at h
  split at h
  case h_5 => cases h
  all_goals
    next hkind =>
    obtain ⟨htext, ho⟩ := Option.ite_none_right_eq_some.mp h
    obtain rfl := Option.some.inj ho
    refine ⟨?_, htext, rfl⟩
    simp [Target.kinds, hkind]

/-- The kind of the node that spells a symbol is one of those it occurs at, or an identifier. -/
theorem kind_namingNode_mem {target : Target} {n : Node} (h : n.kind ∈ target.kinds) :
    (namingNode target n).kind ∈ namingKinds := by
  have hsub : ∀ kind ∈ target.kinds, kind ∈ namingKinds := by
    cases target <;> simp [Target.kinds, namingKinds]
  cases target with
  | customProperty name => exact hsub _ h
  | className name =>
    rcases classNameNode_eq n with heq | ⟨-, hidentifier⟩
    · rw [namingNode, heq]
      exact hsub _ h
    · rw [namingNode, hidentifier]
      decide
  | idName name => exact hsub _ h

/-- **A symbol is named by the node that spells it**, wherever it occurs. -/
theorem targetOf?_of_spelled {target : Target} {n : Node} {l : Located}
    (hcustom : target.isCustomProperty → isCustom target.name) (hkind : n.kind ∈ target.kinds)
    (htext : s.textOf (namingNode target n).info = target.name) (hl : l.node = namingNode target n)
    (hparent : namingNode target n = n ∨ l.parent? = some n) : s.targetOf? l = some target := by
  cases target with
  | customProperty name =>
    have hname : s.textOf n.info = name := htext
    have hcustom : isCustom name := hcustom rfl
    obtain hkind | hkind : n.kind = "property_name" ∨ n.kind = "plain_value" := by
      simpa [Target.kinds] using hkind
    all_goals simp [targetOf?, hl, namingNode, hkind, hname, hcustom]
  | className name =>
    have hkind : n.kind = "class_name" := List.mem_singleton.mp hkind
    have hname : s.textOf l.node.info = name := by
      rw [hl]
      exact htext
    -- the name is spelled by itself, or by an identifier that is found right below it
    obtain hclass | ⟨hidentifier, hbelow⟩ :
        l.node.kind = "class_name" ∨ l.node.kind = "identifier" ∧ l.parent? = some n := by
      rcases hparent with heq | hbelow
      · exact .inl (by rw [hl, heq, hkind])
      · rw [hl, namingNode]
        rcases classNameNode_eq n with heq | ⟨-, hidentifier⟩
        · exact .inl (by rw [heq, hkind])
        · exact .inr ⟨hidentifier, hbelow⟩
    · simp [targetOf?, hclass, hname]
    · simp [targetOf?, hidentifier, hbelow, hkind, hname]
  | idName name =>
    have hkind : n.kind = "id_name" := List.mem_singleton.mp hkind
    have hname : s.textOf n.info = name := htext
    simp [targetOf?, hl, namingNode, hkind, hname]

/-- The offset of a cursor in the name of a symbol, or right behind it, where the symbol occurs. The
name is spelled by one leaf. -/
structure CursorOn (s : Sheet) (target : Target) (n : Node) (o : Occurrence) (b : Nat) : Prop where
  mem_nodes : n ∈ s.nodes
  occurrenceOf?_eq : s.occurrenceOf? target n = some o
  children_eq_nil : (namingNode target n).children = []
  isBoundary : s.text.IsBoundary b
  start_lt : s.text.offsetAt o.range.start < b
  le_stop : b ≤ s.text.offsetAt o.range.stop

/-- **On a name there is the symbol** that occurs there. -/
theorem targetAt?_of_cursorOn (h : s.Searchable) {target : Target}
    (hcustom : target.isCustomProperty → isCustom target.name) {n : Node} {o : Occurrence} {b : Nat}
    (hb : s.CursorOn target n o b) (hfree : b = s.text.offsetAt o.range.stop → ¬ s.AmidWord b) :
    s.targetAt? (s.text.positionAt b) = some (target, namingNode target n) := by
  obtain ⟨hkind, htext, hrange⟩ := spelled_of_occurrenceOf? hb.occurrenceOf?_eq
  have hspells := namingNode_eq target n
  have hm : namingNode target n ∈ s.nodes := by
    rcases hspells with heq | hchild
    · rw [heq]
      exact hb.mem_nodes
    · exact Node.mem_preorder_of_mem_children hb.mem_nodes hchild
  have hnaming := kind_namingNode_mem hkind
  have hfound {a : Nat} (ha : (namingNode target n).Covers a) :=
    namedAt_of_leaf h hb.mem_nodes hspells (h.named _ hm hnaming) hb.children_eq_nil ha
  obtain ⟨hstart, hstop⟩ := offsetAt_rangeOf (h.wellFormed _ hm).1
  rw [← hrange] at hstart hstop
  obtain ⟨a, ha, hcursor⟩ := exists_underCursor_eq h hm (Node.isWord_of_kind_mem hnaming)
    (fun a ha => (hfound ha).1) (Text.offsetAt_positionAt hb.isBoundary) (hstart ▸ hb.start_lt)
    (hstop ▸ hb.le_stop) (hstop ▸ hfree)
  obtain ⟨hnode, hparent⟩ := hfound ha
  rw [targetAt?_eq_some_iff, hcursor]
  exact ⟨targetOf?_of_spelled hcustom hkind htext hnode hparent, hnode⟩

/-! ## What is found there -/

/-- All that is asked about a symbol depends on the symbol alone, and not on the node that names it
under the cursor. -/
theorem answers_eq_of_targetAt? {p q : Position} {target : Target} {m n : Node}
    (hp : s.targetAt? p = some (target, m)) (hq : s.targetAt? q = some (target, n))
    (uri : String) :
    (∀ withDefinitions, s.references uri p withDefinitions = s.references uri q withDefinitions) ∧
      s.highlights p = s.highlights q ∧ s.definition? uri p = s.definition? uri q ∧
      ∀ name, s.rename? uri p name = s.rename? uri q name := by
  refine ⟨fun withDefinitions => ?_, ?_, ?_, fun name => ?_⟩
  · simp only [references, hp, hq]
  · simp only [highlights, hp, hq]
  · cases target <;> simp only [definition?, hp, hq]
  · simp only [rename?, hp, hq]

/-- **A symbol is the same under all cursors on its name**, wherever it occurs in a tree that can be
searched, and so are the answers to all that is asked about it. The only cursors left out are those
right behind a name in the middle of another word. -/
theorem answers_stable (h : s.Searchable) {target : Target}
    (hcustom : target.isCustomProperty → ['-', '-'] <+: target.name) {n : Node} {o : Occurrence}
    {b : Nat} (hb : s.CursorOn target n o b)
    (hfree : ¬ (b = s.text.offsetAt o.range.stop ∧ s.AmidWord b)) :
    s.targetAt? (s.text.positionAt b) = some (target, namingNode target n) ∧
      ∀ n' o' b', s.CursorOn target n' o' b' →
        ¬ (b' = s.text.offsetAt o'.range.stop ∧ s.AmidWord b') →
        ∀ uri, (∀ withDefinitions,
            s.references uri (s.text.positionAt b) withDefinitions =
              s.references uri (s.text.positionAt b') withDefinitions) ∧
          s.highlights (s.text.positionAt b) = s.highlights (s.text.positionAt b') ∧
          s.definition? uri (s.text.positionAt b) = s.definition? uri (s.text.positionAt b') ∧
          ∀ name, s.rename? uri (s.text.positionAt b) name =
            s.rename? uri (s.text.positionAt b') name := by
  have hcustom' : target.isCustomProperty → isCustom target.name :=
    fun hproperty => isCustom_iff.mpr (hcustom hproperty)
  have htarget := targetAt?_of_cursorOn h hcustom' hb (not_and.mp hfree)
  refine ⟨htarget, fun n' o' b' hb' hfree' uri => ?_⟩
  exact answers_eq_of_targetAt? htarget
    (targetAt?_of_cursorOn h hcustom' hb' (not_and.mp hfree')) uri

/-- The name of a class, with a character in it that is no identifier and has no name. -/
def cursorSampleClass : Node :=
  .sample "class_name" true 1 7 [
    .sample "identifier" true 1 4 [],
    .sample "\\:" false 4 6 [],
    .sample "identifier" true 6 7 []]

/-- The name of a custom property. -/
def cursorSampleProperty : Node := .sample "property_name" true 8 12 []

/-- A class and a custom property, both with more bytes than characters. -/
def cursorSample : Sheet where
  text := ".aé\\:b\x7b--é:1\x7d".toList
  tree :=
    { pins := []
      root :=
        .sample "stylesheet" true 0 15 [
          .sample "rule_set" true 0 15 [
            .sample "selectors" true 0 7 [
              .sample "class_selector" true 0 7 [.sample "." false 0 1 [], cursorSampleClass]],
            .sample "block" true 7 15 [
              .sample "\x7b" false 7 8 [],
              .sample "declaration" true 8 14 [
                cursorSampleProperty,
                .sample ":" false 12 13 [],
                .sample "integer_value" true 13 14 []],
              .sample "\x7d" false 14 15 []]]] }

theorem searchable_cursorSample : cursorSample.Searchable where
  wellFormed := by decide +kernel
  start_lt_stop := by decide +kernel
  named := by decide +kernel
  path_namedAt := cursorSample.tree.path_namedAt_of_pins rfl

/-- The custom property is the same in the middle of its name and right behind it. The class is
found in the middle of its first identifier, and right behind that the name around it is. -/
theorem answers_stable_sample :
    cursorSample.Searchable ∧
      cursorSample.CursorOn (.customProperty "--é".toList) cursorSampleProperty
        ⟨⟨⟨0, 7⟩, ⟨0, 10⟩⟩, true⟩ 9 ∧
      cursorSample.CursorOn (.customProperty "--é".toList) cursorSampleProperty
        ⟨⟨⟨0, 7⟩, ⟨0, 10⟩⟩, true⟩ 12 ∧
      cursorSample.targetAt? ⟨0, 10⟩ =
        some (.customProperty "--é".toList, cursorSampleProperty) ∧
      cursorSample.rename? "untitled:1" ⟨0, 10⟩ "x" =
        cursorSample.rename? "untitled:1" ⟨0, 8⟩ "x" ∧
      cursorSample.CursorOn (.className "aé".toList) cursorSampleClass
        ⟨⟨⟨0, 1⟩, ⟨0, 3⟩⟩, false⟩ 2 ∧
      cursorSample.targetAt? ⟨0, 2⟩ =
        some (.className "aé".toList, .sample "identifier" true 1 4 []) ∧
      cursorSample.CursorOn (.className "aé".toList) cursorSampleClass
        ⟨⟨⟨0, 1⟩, ⟨0, 3⟩⟩, false⟩ 4 ∧
      cursorSample.AmidWord 4 ∧
      cursorSample.targetAt? ⟨0, 3⟩ = some (.className "aé\\:b".toList, cursorSampleClass) := by
  have hclass : cursorSampleClass ∈ cursorSample.nodes :=
    List.mem_of_getElem? (show cursorSample.nodes[5]? = some _ from rfl)
  have hproperty : cursorSampleProperty ∈ cursorSample.nodes :=
    List.mem_of_getElem? (show cursorSample.nodes[12]? = some _ from rfl)
  have hinside : cursorSample.CursorOn (.customProperty "--é".toList) cursorSampleProperty
      ⟨⟨⟨0, 7⟩, ⟨0, 10⟩⟩, true⟩ 9 :=
    ⟨hproperty, by decide +kernel, rfl, by decide +kernel, by decide +kernel, by decide +kernel⟩
  have hbehind : cursorSample.CursorOn (.customProperty "--é".toList) cursorSampleProperty
      ⟨⟨⟨0, 7⟩, ⟨0, 10⟩⟩, true⟩ 12 :=
    ⟨hproperty, by decide +kernel, rfl, by decide +kernel, by decide +kernel, by decide +kernel⟩
  have hfirst : cursorSample.CursorOn (.className "aé".toList) cursorSampleClass
      ⟨⟨⟨0, 1⟩, ⟨0, 3⟩⟩, false⟩ 2 :=
    ⟨hclass, by decide +kernel, rfl, by decide +kernel, by decide +kernel, by decide +kernel⟩
  have hlast : cursorSample.CursorOn (.className "aé".toList) cursorSampleClass
      ⟨⟨⟨0, 1⟩, ⟨0, 3⟩⟩, false⟩ 4 :=
    ⟨hclass, by decide +kernel, rfl, by decide +kernel, by decide +kernel, by decide +kernel⟩
  obtain ⟨htarget, hsame⟩ := answers_stable searchable_cursorSample (by decide) hbehind
    (by decide +kernel)
  obtain ⟨-, -, -, hrename⟩ := hsame _ _ _ hinside (by decide +kernel) "untitled:1"
  have hname := (answers_stable searchable_cursorSample (by decide) hfirst (by decide +kernel)).1
  exact ⟨searchable_cursorSample, hinside, hbehind, htarget, hrename "x", hfirst, hname, hlast,
    by decide +kernel, rfl⟩

end Sheet

end CssFragments
