import CssFragments.Proofs.Text.Offset
import CssFragments.Tree.Node

/-! # Well-formed syntax trees

In the tree of a parser, every node covers a part of the text that its children divide among
themselves, each in its turn.

* `Node.induction`: induction over trees, with all children at once.
* `Node.Placed`, `Node.Orderly`: a node covers whole characters and its children, and these follow
  each other.
* `Node.WellFormed`: both hold of all nodes of a tree.
* `Node.Row`: the same for a list of siblings.
* `Node.Unnested`, `Node.WellFormed.pairwise_preorder`: nodes that are not below each other follow
  each other. -/

namespace CssFragments

namespace Node

/-- Induction over trees: what holds of a node as soon as it holds of its children holds of all. -/
@[elab_as_elim, induction_eliminator]
theorem induction {motive : Node → Prop}
    (node : ∀ i cs, (∀ c ∈ cs, motive c) → motive (.node i cs)) (n : Node) : motive n :=
  @Node.rec motive (fun cs => ∀ c ∈ cs, motive c) node
    (List.forall_mem_nil _) (fun _ _ hn hrest => List.forall_mem_cons.mpr ⟨hn, hrest⟩) n

theorem preorder_eq_cons (n : Node) : n.preorder = n :: preorderAll n.children := by
  cases n with
  | node i cs => rfl

/-- The nodes of several trees are those of each of them. -/
theorem mem_preorderAll_iff {m : Node} {ns : List Node} :
    m ∈ preorderAll ns ↔ ∃ n ∈ ns, m ∈ n.preorder := by
  induction ns with
  | nil => simp [preorderAll]
  | cons n rest ih => simp [preorderAll, ih]

/-! ## Nodes in the text -/

/-- A node covers whole characters, and each of its children is in what it covers. -/
structure Placed (t : Text) (n : Node) : Prop where
  start_le_stop : n.info.start ≤ n.info.stop
  isBoundary_start : t.IsBoundary n.info.start
  isBoundary_stop : t.IsBoundary n.info.stop
  within : ∀ c ∈ n.children, n.info.start ≤ c.info.start ∧ c.info.stop ≤ n.info.stop

instance (t : Text) (n : Node) : Decidable (n.Placed t) :=
  decidable_of_iff
    (n.info.start ≤ n.info.stop ∧ t.IsBoundary n.info.start ∧ t.IsBoundary n.info.stop ∧
      ∀ c ∈ n.children, n.info.start ≤ c.info.start ∧ c.info.stop ≤ n.info.stop)
    ⟨fun ⟨h, hstart, hstop, hin⟩ => ⟨h, hstart, hstop, hin⟩,
      fun ⟨h, hstart, hstop, hin⟩ => ⟨h, hstart, hstop, hin⟩⟩

/-- The children of a node follow each other, and no two of them overlap. -/
def Orderly (n : Node) : Prop := n.children.Pairwise fun a b => a.info.stop ≤ b.info.start

instance (n : Node) : Decidable n.Orderly :=
  inferInstanceAs (Decidable (n.children.Pairwise fun a b => a.info.stop ≤ b.info.start))

/-- All nodes of a tree are where they should be. -/
def WellFormed (t : Text) (n : Node) : Prop := ∀ m ∈ n.preorder, m.Placed t ∧ m.Orderly

instance (t : Text) (n : Node) : Decidable (n.WellFormed t) :=
  inferInstanceAs (Decidable (∀ m ∈ n.preorder, m.Placed t ∧ m.Orderly))

/-- A tree is well-formed by its root and by the trees right below. -/
theorem wellFormed_node_iff {t : Text} {i : NodeInfo} {cs : List Node} :
    (node i cs).WellFormed t ↔
      ((node i cs).Placed t ∧ (node i cs).Orderly) ∧ ∀ c ∈ cs, c.WellFormed t := by
  simp only [WellFormed, preorder, List.forall_mem_cons, mem_preorderAll_iff]
  grind

theorem WellFormed.placed {t : Text} {n : Node} (h : n.WellFormed t) : n.Placed t := by
  cases n with
  | node i cs => exact (wellFormed_node_iff.mp h).1.1

/-! ## Siblings -/

/-- Well-formed trees that follow each other between two offsets. -/
structure Row (t : Text) (start stop : Nat) (ns : List Node) : Prop where
  wellFormed : ∀ n ∈ ns, n.WellFormed t
  within : ∀ n ∈ ns, start ≤ n.info.start ∧ n.info.stop ≤ stop
  orderly : ns.Pairwise fun a b => a.info.stop ≤ b.info.start

theorem row_nil (t : Text) (start stop : Nat) : Row t start stop [] :=
  ⟨List.forall_mem_nil _, List.forall_mem_nil _, .nil⟩

/-- The children of a node are a row in what it covers. -/
theorem WellFormed.row {t : Text} {n : Node} (h : n.WellFormed t) :
    Row t n.info.start n.info.stop n.children := by
  cases n with
  | node i cs =>
    obtain ⟨⟨hplaced, horderly⟩, hcs⟩ := wellFormed_node_iff.mp h
    exact ⟨hcs, hplaced.within, horderly⟩

theorem Row.mono {t : Text} {start stop start' stop' : Nat} {ns : List Node}
    (h : Row t start stop ns) (hstart : start' ≤ start) (hstop : stop ≤ stop') :
    Row t start' stop' ns := by
  refine ⟨h.wellFormed, fun n hn => ?_, h.orderly⟩
  obtain ⟨hleft, hright⟩ := h.within n hn
  exact ⟨le_trans hstart hleft, le_trans hright hstop⟩

/-! ## The order of all nodes -/

theorem preorderAll_eq_flatMap (ns : List Node) : preorderAll ns = ns.flatMap preorder := by
  induction ns with
  | nil => rfl
  | cons n rest ih => rw [preorderAll, ih, List.flatMap_cons]

/-- All nodes of a tree are in what its root covers. -/
theorem WellFormed.within_of_mem_preorder {t : Text} {n m : Node} (h : n.WellFormed t)
    (hm : m ∈ n.preorder) : n.info.start ≤ m.info.start ∧ m.info.stop ≤ n.info.stop := by
  induction n with
  | node i cs ih =>
    rw [preorder] at hm
    rcases List.mem_cons.mp hm with rfl | hbelow
    · exact ⟨le_rfl, le_rfl⟩
    · obtain ⟨c, hc, hmc⟩ := mem_preorderAll_iff.mp hbelow
      obtain ⟨hstart, hstop⟩ := h.row.within c hc
      obtain ⟨hstart', hstop'⟩ := ih c hc (h.row.wellFormed c hc) hmc
      exact ⟨le_trans hstart hstart', le_trans hstop' hstop⟩

/-- No node with a property is below another one that has it. -/
def Unnested (p : Node → Prop) (n : Node) : Prop :=
  ∀ m ∈ n.preorder, p m → ∀ b ∈ preorderAll m.children, ¬ p b

instance (p : Node → Prop) [DecidablePred p] (n : Node) : Decidable (n.Unnested p) :=
  inferInstanceAs (Decidable (∀ m ∈ n.preorder, p m → ∀ b ∈ preorderAll m.children, ¬ p b))

/-- **Nodes that are not below each other follow each other**, in the order in which they are
listed. -/
theorem WellFormed.pairwise_preorder {t : Text} {n : Node} {p : Node → Prop} (h : n.WellFormed t)
    (hp : n.Unnested p) :
    n.preorder.Pairwise fun a b => p a → p b → a.info.stop ≤ b.info.start := by
  induction n with
  | node i cs ih =>
    rw [preorder, List.pairwise_cons, preorderAll_eq_flatMap, List.pairwise_flatMap]
    refine ⟨fun b hb hroot => ?_, fun c hc => ?_, ?_⟩
    · -- nothing below a root that has the property has it
      rw [← preorderAll_eq_flatMap] at hb
      intro hb'
      exact absurd hb' (hp _ List.mem_cons_self hroot b hb)
    · refine ih c hc (h.row.wellFormed c hc) fun m hm => hp m ?_
      exact List.mem_cons_of_mem _ (mem_preorderAll_iff.mpr ⟨c, hc, hm⟩)
    · refine h.row.orderly.imp_of_mem fun {a b} ha hb hab x hx y hy _ _ => ?_
      have hleft := ((h.row.wellFormed a ha).within_of_mem_preorder hx).2
      have hright := ((h.row.wellFormed b hb).within_of_mem_preorder hy).1
      exact le_trans hleft (le_trans hab hright)

end Node

end CssFragments
