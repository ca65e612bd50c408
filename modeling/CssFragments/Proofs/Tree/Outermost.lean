import CssFragments.Proofs.Tree.Lineage
import Mathlib.Data.List.Basic

/-! # Outermost nodes

Many a walk over a tree stops at the nodes it looks for and leaves out what is below them. What it
finds are the nodes of that sort that are not below another one.

* `Located.enclosing`: nodes around a place, each with the nodes around it.
* `Located.Outermost`: a node has a property that none of the nodes around it has.
* `Node.outermost`: all such nodes, in the order of the text.
* `Node.outermost_of_pos`, `Node.outermost_of_neg`: at each node a walk stops or goes on below.
* `Node.flatMap_outermost`: what is collected on such a walk is collected from the outermost nodes.
* `Node.pairwise_outermost`: in a well-formed tree they follow each other. -/

namespace CssFragments

namespace Located

/-- Nodes around a place, innermost first, each with the nodes around it. -/
def enclosing : List Node → List Located
  | [] => []
  | n :: above => ⟨n, above⟩ :: enclosing above

/-- A node has a property that none of the nodes around it has. -/
def Outermost (p : Located → Prop) (l : Located) : Prop :=
  p l ∧ ∀ m ∈ enclosing l.ancestors, ¬ p m

instance (p : Located → Prop) [DecidablePred p] : DecidablePred (Outermost p) := fun l =>
  inferInstanceAs (Decidable (p l ∧ ∀ m ∈ enclosing l.ancestors, ¬ p m))

/-- The innermost of the nodes with which a way up ends is around its start. -/
theorem mem_enclosing_of_isSuffix {n : Node} {above path : List Node} (h : n :: above <:+ path) :
    ⟨n, above⟩ ∈ enclosing path := by
  obtain ⟨below, rfl⟩ := h
  induction below with
  | nil => exact List.mem_cons_self
  | cons m below ih => exact List.mem_cons_of_mem _ ih

end Located

namespace Node

theorem walkAll_eq_flatMap (above ns : List Node) : walkAll above ns = ns.flatMap (walk above) := by
  induction ns with
  | nil => rfl
  | cons n rest ih => rw [walkAll, ih, List.flatMap_cons]

/-- All that a walk meets are nodes of the tree. -/
theorem node_mem_preorder_of_mem_walk {n : Node} {above : List Node} {l : Located}
    (h : l ∈ n.walk above) : l.node ∈ n.preorder := by
  induction n generalizing above with
  | node i cs ih =>
    rw [walk] at h
    rw [preorder]
    rcases List.mem_cons.mp h with rfl | hbelow
    · exact List.mem_cons_self
    · obtain ⟨c, hc, hl⟩ := mem_walkAll_iff.mp hbelow
      exact List.mem_cons_of_mem _ (mem_preorderAll_iff.mpr ⟨c, hc, ih c hc hl⟩)

/-- The node where a walk starts is around all others that it meets, or is one of them itself. -/
theorem isSuffix_of_mem_walk {n : Node} {above : List Node} {l : Located} (h : l ∈ n.walk above) :
    n :: above <:+ l.path := by
  induction n generalizing above with
  | node i cs ih =>
    rw [walk] at h
    rcases List.mem_cons.mp h with rfl | hbelow
    · exact List.suffix_rfl
    · obtain ⟨c, hc, hl⟩ := mem_walkAll_iff.mp hbelow
      exact (List.suffix_cons c _).trans (ih c hc hl)

/-- Below a child, the parent is among the nodes around. -/
theorem isSuffix_ancestors_of_mem_walk {n c : Node} {above : List Node} {l : Located}
    (h : l ∈ c.walk (n :: above)) : n :: above <:+ l.ancestors := by
  have hpath := isSuffix_of_mem_walk h
  rw [Located.path] at hpath
  rcases List.suffix_cons_iff.mp hpath with heq | hsuffix
  · exact (List.cons.inj heq).2 ▸ List.suffix_rfl
  · exact (List.suffix_cons c _).trans hsuffix

/-! ## Walks that stop -/

section

variable (p : Located → Prop) [DecidablePred p]

/-- The outermost nodes with a property, in the order of the text. -/
def outermost (above : List Node) (n : Node) : List Located :=
  (n.walk above).filter (Located.Outermost p)

variable {p} {n : Node} {above : List Node}

theorem mem_outermost {l : Located} :
    l ∈ n.outermost p above ↔ l ∈ n.walk above ∧ l.Outermost p := by
  rw [outermost, List.mem_filter, decide_eq_true_iff]

/-- **A walk stops** at a node with the property. -/
theorem outermost_of_pos (h : p ⟨n, above⟩) (habove : ∀ m ∈ Located.enclosing above, ¬ p m) :
    n.outermost p above = [⟨n, above⟩] := by
  obtain ⟨i, cs⟩ := n
  rw [outermost, walk, List.filter_cons, if_pos (decide_eq_true ⟨h, habove⟩), walkAll_eq_flatMap]
  -- nothing below counts, since this node is around it
  have hbelow : (cs.flatMap (walk (node i cs :: above))).filter (Located.Outermost p) = [] := by
    refine List.filter_eq_nil_iff.mpr fun l hl houtermost => ?_
    obtain ⟨c, -, hlc⟩ := List.mem_flatMap.mp hl
    have hencloses := Located.mem_enclosing_of_isSuffix (isSuffix_ancestors_of_mem_walk hlc)
    exact (of_decide_eq_true houtermost).2 _ hencloses h
  rw [hbelow]

/-- **A walk goes on** below a node without the property. -/
theorem outermost_of_neg (h : ¬ p ⟨n, above⟩) :
    n.outermost p above = n.children.flatMap (outermost p (n :: above)) := by
  obtain ⟨i, cs⟩ := n
  have hroot : ¬ Located.Outermost p ⟨node i cs, above⟩ := fun houtermost => h houtermost.1
  rw [outermost, walk, List.filter_cons, if_neg (by simpa using hroot), walkAll_eq_flatMap,
    List.filter_flatMap]
  rfl

/-- **What is collected on a walk that stops.** A function that takes something from each node with
the property, and else goes on to the children, takes it from the outermost ones. -/
theorem flatMap_outermost {β : Type} (f : List Node → Node → List β) (g : Located → List β)
    (hpos : ∀ above n, p ⟨n, above⟩ → f above n = g ⟨n, above⟩)
    (hneg : ∀ above n, ¬ p ⟨n, above⟩ → f above n = n.children.flatMap (f (n :: above)))
    (n : Node) : f [] n = (n.outermost p []).flatMap g := by
  -- on the way down, no node around has the property
  suffices h : ∀ above, (∀ m ∈ Located.enclosing above, ¬ p m) →
      f above n = (n.outermost p above).flatMap g from h [] (List.forall_mem_nil _)
  induction n with
  | node i cs ih =>
    intro above habove
    by_cases h : p ⟨node i cs, above⟩
    · rw [hpos above _ h, outermost_of_pos h habove, List.flatMap_singleton]
    · have hcs : ∀ c ∈ cs, f (node i cs :: above) c =
          (c.outermost p (node i cs :: above)).flatMap g :=
        fun c hc => ih c hc _ (List.forall_mem_cons.mpr ⟨h, habove⟩)
      rw [hneg above _ h, outermost_of_neg h, List.flatMap_assoc]
      exact List.flatMap_congr hcs

/-- **Outermost nodes follow each other** in a well-formed tree. -/
theorem pairwise_outermost {t : Text} (hn : n.WellFormed t) :
    (n.outermost p []).Pairwise fun a b => a.node.info.stop ≤ b.node.info.start := by
  suffices h : ∀ above, (∀ m ∈ Located.enclosing above, ¬ p m) →
      (n.outermost p above).Pairwise fun a b => a.node.info.stop ≤ b.node.info.start from
    h [] (List.forall_mem_nil _)
  induction n with
  | node i cs ih =>
    intro above habove
    by_cases h : p ⟨node i cs, above⟩
    · rw [outermost_of_pos h habove]
      exact List.pairwise_singleton _ _
    · rw [outermost_of_neg h, List.pairwise_flatMap]
      refine ⟨fun c hc => ?_, ?_⟩
      · exact ih c hc (hn.row.wellFormed c hc) _ (List.forall_mem_cons.mpr ⟨h, habove⟩)
      · -- nodes below different children are apart as these are
        refine hn.row.orderly.imp_of_mem fun {a b} ha hb hab x hx y hy => ?_
        have hxa := node_mem_preorder_of_mem_walk (mem_outermost.mp hx).1
        have hyb := node_mem_preorder_of_mem_walk (mem_outermost.mp hy).1
        have hleft := ((hn.row.wellFormed a ha).within_of_mem_preorder hxa).2
        have hright := ((hn.row.wellFormed b hb).within_of_mem_preorder hyb).1
        exact le_trans hleft (le_trans hab hright)

end

end Node

end CssFragments
