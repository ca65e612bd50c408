import CssFragments.Proofs.Tree.WellFormed
import CssFragments.Sheet.Basic

/-! # Lines of descent

All nodes that a tree is asked for come with the nodes around them. However they were found, each
of these is a child of the next one, and the last one is the root.

* `Node.Lineage`: the nodes from one of the tree up to its root.
* `Node.Lineage.mem_preorder`: they are nodes of the tree.
* `Node.Lineage.of_mem_walk`, `Node.Lineage.descend`: what is found in the list of all nodes, and on
  the way down to an offset.
* `Tree.lineage_nodeAt`, `Tree.lineage_namedAt`, `Sheet.lineage_underCursor`: what a tree is asked
  for; without pins, that is `Tree.path_nodeAt_of_pins`, `Tree.path_namedAt_of_pins`.
* `Node.covers_of_mem_descend`: below the root, the nodes on the way to an offset cover it. -/

namespace CssFragments

namespace Node

/-! ## Nodes below nodes -/

theorem mem_preorder_self (n : Node) : n ∈ n.preorder := by
  cases n with
  | node i cs => exact List.mem_cons_self

/-- The children of the nodes of a tree are nodes of it. -/
theorem mem_preorder_of_mem_children {root n c : Node} (hn : n ∈ root.preorder)
    (hc : c ∈ n.children) : c ∈ root.preorder := by
  induction root with
  | node i cs ih =>
    rw [preorder] at hn ⊢
    rcases List.mem_cons.mp hn with rfl | hbelow
    · exact List.mem_cons_of_mem _ (mem_preorderAll_iff.mpr ⟨c, hc, c.mem_preorder_self⟩)
    · obtain ⟨m, hm, hnm⟩ := mem_preorderAll_iff.mp hbelow
      exact List.mem_cons_of_mem _ (mem_preorderAll_iff.mpr ⟨m, hm, ih m hm hnm⟩)

theorem mem_walkAll_iff {above : List Node} {l : Located} {ns : List Node} :
    l ∈ walkAll above ns ↔ ∃ n ∈ ns, l ∈ walk above n := by
  induction ns with
  | nil => simp [walkAll]
  | cons n rest ih => simp [walkAll, ih]

/-- **One step down.** Among siblings, the way to an offset ends, or it goes on in one of them that
covers the offset. -/
theorem descendAll_eq (b : Nat) (ns : List Node) :
    descendAll b ns = [] ∨
      ∃ n ∈ ns, (n.info.start ≤ b ∧ b ≤ n.info.stop) ∧ descendAll b ns = n.descend b := by
  induction ns with
  | nil => exact .inl rfl
  | cons n rest ih =>
    rw [descendAll]
    by_cases hreaches : n.reaches b
    · rw [if_pos hreaches]
      by_cases hstart : n.info.start > b
      · exact .inl (if_pos hstart)
      · have hstop : b ≤ n.info.stop := by
          simp only [reaches, Bool.or_eq_true, decide_eq_true_eq, Bool.and_eq_true,
            beq_iff_eq] at hreaches
          omega
        exact .inr ⟨n, List.mem_cons_self, ⟨by omega, hstop⟩, if_neg hstart⟩
    · rw [if_neg hreaches]
      rcases ih with hnil | ⟨m, hm, hcovers, hdescend⟩
      · exact .inl hnil
      · exact .inr ⟨m, List.mem_cons_of_mem _ hm, hcovers, hdescend⟩

/-- Below the node where it starts, all nodes on the way to an offset cover the offset. -/
theorem covers_of_mem_descend {b : Nat} {n m : Node} (h : m ∈ n.descend b) :
    m = n ∨ m.info.start ≤ b ∧ b ≤ m.info.stop := by
  induction n with
  | node i cs ih =>
    rw [descend] at h
    rcases List.mem_cons.mp h with rfl | hbelow
    · exact .inl rfl
    · rcases descendAll_eq b cs with hnil | ⟨c, hc, hcovers, hdescend⟩
      · rw [hnil] at hbelow
        cases hbelow
      · rw [hdescend] at hbelow
        rcases ih c hc hbelow with rfl | hm
        · exact .inr hcovers
        · exact .inr hm

/-! ## Up to the root -/

/-- The nodes from one of a tree up to its root, each a child of the next. -/
inductive Lineage (root : Node) : List Node → Prop
  /-- The root alone. -/
  | root : Lineage root [root]
  /-- A child before a line that starts with its parent. -/
  | child {c n : Node} {above : List Node} (hc : c ∈ n.children) (h : Lineage root (n :: above)) :
      Lineage root (c :: n :: above)

namespace Lineage

variable {root n : Node} {above path : List Node}

/-- All nodes of a line of descent are nodes of the tree. -/
theorem mem_preorder (h : Lineage root path) : ∀ n ∈ path, n ∈ root.preorder := by
  induction h with
  | root => exact List.forall_mem_singleton.mpr root.mem_preorder_self
  | @child c n above hc _ ih =>
    exact List.forall_mem_cons.mpr
      ⟨mem_preorder_of_mem_children (ih n List.mem_cons_self) hc, ih⟩

/-- The node right around another one has it as a child. -/
theorem mem_children {l : Located} (h : Lineage root l.path) {m : Node} (hm : l.parent? = some m) :
    l.node ∈ m.children := by
  obtain ⟨n, above⟩ := l
  cases h with
  | root => cases hm
  | child hc _ =>
    obtain rfl := Option.some.inj hm
    exact hc

/-- The nodes below one whose line of descent is known, with the nodes around them. -/
theorem of_mem_walk (h : Lineage root (n :: above)) {l : Located} (hl : l ∈ n.walk above) :
    Lineage root l.path := by
  induction n generalizing above with
  | node i cs ih =>
    rw [walk] at hl
    rcases List.mem_cons.mp hl with rfl | hbelow
    · exact h
    · obtain ⟨c, hc, hlc⟩ := mem_walkAll_iff.mp hbelow
      exact ih c hc (.child (n := .node i cs) hc h) hlc

/-- The way down from a node whose line of descent is known, read from its end. -/
theorem descend (b : Nat) (h : Lineage root (n :: above)) :
    Lineage root ((n.descend b).reverse ++ above) := by
  induction n generalizing above with
  | node i cs ih =>
    rw [Node.descend, List.reverse_cons, List.append_assoc, List.singleton_append]
    rcases descendAll_eq b cs with hnil | ⟨c, hc, -, hdescend⟩
    · rw [hnil]
      exact h
    · rw [hdescend]
      exact ih c hc (.child (n := .node i cs) hc h)

/-- A line of descent from the first node with a name on. -/
theorem toNamed (h : Lineage root path) : Lineage root (Tree.toNamed path) := by
  induction h with
  | root => exact .root
  | @child c n above hc h ih =>
    rw [Tree.toNamed]
    · split
      · exact .child hc h
      · exact ih
    · simp

end Lineage

end Node

/-! ## What a tree is asked for -/

namespace Tree

variable (t : Tree)

/-- A line of descent is arrived at as it is. -/
theorem path_arrive {path : List Node} (h : t.root.Lineage path) : (t.arrive path).path = path := by
  cases h <;> rfl

theorem lineage_descend (b : Nat) : t.root.Lineage (t.root.descend b).reverse := by
  have h := (Node.Lineage.root : t.root.Lineage [t.root]).descend b
  rwa [List.append_nil] at h

theorem lineage_nth? {index : Nat} {l : Located} (h : t.nth? index = some l) :
    t.root.Lineage l.path :=
  .of_mem_walk .root (List.mem_of_getElem? h)

/-- The innermost node at an offset has a line of descent. -/
theorem lineage_nodeAt (b : Nat) : t.root.Lineage (t.nodeAt b).path := by
  rw [nodeAt]
  split
  · next l hpin =>
    obtain ⟨p, -, hl⟩ := Option.bind_eq_some_iff.mp hpin
    exact t.lineage_nth? hl
  · rw [path_arrive t (t.lineage_descend b)]
    exact t.lineage_descend b

/-- A tree without pins finds the innermost node at an offset on the way down. -/
theorem path_nodeAt_of_pins (hpins : t.pins = []) (b : Nat) :
    (t.nodeAt b).path = (t.root.descend b).reverse := by
  rw [nodeAt, hpins]
  exact path_arrive t (t.lineage_descend b)

/-- A tree without pins finds the innermost node with a name on the way down, too. -/
theorem path_namedAt_of_pins (hpins : t.pins = []) (b : Nat) :
    (t.namedAt b).path = toNamed (t.root.descend b).reverse := by
  rw [namedAt, hpins]
  exact path_arrive t (t.lineage_descend b).toNamed

/-- The innermost node with a name at an offset has a line of descent. -/
theorem lineage_namedAt (b : Nat) : t.root.Lineage (t.namedAt b).path := by
  rw [namedAt]
  split
  · next l hpin =>
    obtain ⟨p, -, hl⟩ := Option.bind_eq_some_iff.mp hpin
    exact t.lineage_nth? hl
  · rw [path_arrive t (t.lineage_descend b).toNamed]
    exact (t.lineage_descend b).toNamed

end Tree

/-- The node under a cursor has a line of descent. -/
theorem Sheet.lineage_underCursor (s : Sheet) (p : Position) :
    s.tree.root.Lineage (s.underCursor p).path := by
  rw [underCursor]
  dsimp only
  split
  · split
    · exact s.tree.lineage_namedAt _
    · exact s.tree.lineage_namedAt _
  · exact s.tree.lineage_namedAt _

end CssFragments
