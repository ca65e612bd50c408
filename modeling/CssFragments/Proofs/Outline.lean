import CssFragments.Proofs.Frame.Clamp
import CssFragments.Proofs.Service
import CssFragments.Proofs.Tree.WellFormed

/-! # Outlines are well nested

A client accepts an outline only if each entry contains its selected part and all that is below it,
and if neighbours do not overlap. The entries of a well-formed tree are like that, since they are
like the nodes that they stand for. On the way to the client an entry can be missing twice, for a
node that has none and for one outside the fragment. What would be below it then takes its place.

* `Symbol.NestedIn`: the entries of an outline are well nested in a range.
* `Symbol.NestedIn.hoist`, `Symbol.NestedIn.flatMap`: how outlines are put together.
* `Symbol.listing`: all entries, each before those below it.
* `Sheet.Exposed`, `Sheet.mem_listing_outlineOf_iff`: which nodes have an entry in the outline.
* `Sheet.nestedIn_outlineOf`: the entries of siblings are well nested in the range around them.
* `Shift.nestedIn_symbols`, `Shift.listing_symbols`: what becomes of entries in the fragment.
* `Service.ask_symbols_nestedIn`: what the client is shown. -/

namespace CssFragments

namespace Symbol

/-! ## Nested entries -/

/-- The entries are in a range, they contain the part of them that is selected and all that is
below them, and they follow each other without overlap. So do the entries below each of them. -/
inductive NestedIn : Range → List Symbol → Prop
  /-- Entries that are well nested below each of them. -/
  | intro {r : Range} {ss : List Symbol}
      (within : ∀ s ∈ ss, s.info.range.Within r)
      (selected : ∀ s ∈ ss, s.info.selectionRange.Within s.info.range)
      (apart : ss.Pairwise fun a b => a.info.range.stop ≤ b.info.range.start)
      (below : ∀ s ∈ ss, NestedIn s.info.range s.children) : NestedIn r ss

namespace NestedIn

variable {r r' : Range} {ss : List Symbol}

theorem within (h : NestedIn r ss) : ∀ s ∈ ss, s.info.range.Within r := by
  cases h with
  | intro within => exact within

/-- A wider range holds the same entries. -/
theorem mono (h : NestedIn r ss) (hr : r.Within r') : NestedIn r' ss := by
  cases h with
  | intro within selected apart below =>
    exact intro (fun s hs => (within s hs).trans hr) selected apart below

/-- **An entry that may be missing.** If it is there, it has the whole range; if not, the entries
that would be below it are well nested in that range themselves. -/
theorem hoist {info : Option SymbolInfo} {children : Option (List Symbol)}
    (hr : r.start ≤ r.stop) (hinfo : ∀ i, info = some i → i.range = r ∧ i.selectionRange.Within r)
    (hbelow : NestedIn r (children.getD [])) : NestedIn r (Shift.hoist info children) := by
  cases info with
  | none => exact hbelow
  | some i =>
    obtain ⟨rfl, hselection⟩ := hinfo i rfl
    exact intro (List.forall_mem_singleton.mpr ⟨le_rfl, hr, le_rfl⟩)
      (List.forall_mem_singleton.mpr hselection) (List.pairwise_singleton _ _)
      (List.forall_mem_singleton.mpr hbelow)

/-- **Outlines of neighbours.** If each element of a list has a range, and these follow each other,
the outlines that are well nested in those ranges make one outline. -/
theorem flatMap {α : Type} {as : List α} (range : α → Range) {entries : α → List Symbol}
    (hwithin : ∀ a ∈ as, (range a).Within r)
    (hapart : as.Pairwise fun a b => (range a).stop ≤ (range b).start)
    (hentries : ∀ a ∈ as, NestedIn (range a) (entries a)) :
    NestedIn r (as.flatMap entries) := by
  refine intro ?within ?selected ?apart ?below
  case within =>
    intro s hs
    obtain ⟨a, ha, hsa⟩ := List.mem_flatMap.mp hs
    exact ((hentries a ha).within s hsa).trans (hwithin a ha)
  case selected =>
    intro s hs
    obtain ⟨a, ha, hsa⟩ := List.mem_flatMap.mp hs
    cases hentries a ha with
    | intro _ selected => exact selected s hsa
  case apart =>
    refine List.pairwise_flatMap.mpr ⟨fun a ha => ?_, ?_⟩
    · cases hentries a ha with
      | intro _ _ apart => exact apart
    · -- between two elements the order of their ranges carries over to what is in these
      refine hapart.imp_of_mem fun {a b} ha hb hab x hx y hy => ?_
      have hstop := ((hentries a ha).within x hx).stop_le
      have hstart := ((hentries b hb).within y hy).start_le
      exact le_trans hstop (le_trans hab hstart)
  case below =>
    intro s hs
    obtain ⟨a, ha, hsa⟩ := List.mem_flatMap.mp hs
    cases hentries a ha with
    | intro _ _ _ below => exact below s hsa

end NestedIn

/-! ## All entries -/

mutual

/-- An entry and all entries below it. -/
def listingOf : Symbol → List SymbolInfo
  | node i children => i :: listingBelow children
termination_by structural n => n

/-- The entries below an entry, if they are listed. -/
def listingBelow : Option (List Symbol) → List SymbolInfo
  | none => []
  | some children => listing children
termination_by structural children => children

/-- All entries of an outline, each before those below it. -/
def listing : List Symbol → List SymbolInfo
  | [] => []
  | n :: rest => listingOf n ++ listing rest
termination_by structural ns => ns

end

/-- Induction over outlines: what holds of an entry as soon as it holds of those below it holds of
all. -/
@[elab_as_elim, induction_eliminator]
theorem induction {motive : Symbol → Prop}
    (node : ∀ i children, (∀ c ∈ children.getD [], motive c) → motive (.node i children))
    (n : Symbol) : motive n :=
  @Symbol.rec motive (fun children => ∀ c ∈ children.getD [], motive c)
    (fun cs => ∀ c ∈ cs, motive c) node (List.forall_mem_nil _) (fun _ hcs => hcs)
    (List.forall_mem_nil _) (fun _ _ hn hrest => List.forall_mem_cons.mpr ⟨hn, hrest⟩) n

theorem listingBelow_eq (children : Option (List Symbol)) :
    listingBelow children = listing (children.getD []) := by
  cases children <;> rfl

theorem listing_append (ss ss' : List Symbol) :
    listing (ss ++ ss') = listing ss ++ listing ss' := by
  induction ss with
  | nil => rfl
  | cons n rest ih => rw [List.cons_append, listing, listing, ih, List.append_assoc]

theorem listing_hoist (info : Option SymbolInfo) (children : Option (List Symbol)) :
    listing (Shift.hoist info children) = info.toList ++ listing (children.getD []) := by
  cases info with
  | none => rfl
  | some i =>
    show listingOf (.node i children) ++ [] = _
    rw [listingOf, listingBelow_eq, List.append_nil]
    rfl

end Symbol

/-! ## The outline of a stylesheet -/

namespace Sheet

/-- The nodes whose entries are below that of a node, or take its place if it has none. -/
def inner (s : Sheet) (n : Node) : List Node :=
  if n.kind = "declaration" then []
  else if (s.entry? n.info n.children).isSome then
    ((n.childOfKind? "block").map Node.children).getD []
  else n.children

/-- The nodes in question are none, or the children of the node or of its block. -/
theorem inner_eq (s : Sheet) (n : Node) :
    s.inner n = [] ∨ s.inner n = n.children ∨ ∃ b ∈ n.children, s.inner n = b.children := by
  rw [inner]
  split
  · exact .inl rfl
  · split
    · cases hblock : n.childOfKind? "block" with
      | none => exact .inl rfl
      | some b => exact .inr (.inr ⟨b, List.mem_of_find?_eq_some hblock, rfl⟩)
    · exact .inr (.inl rfl)

/-- Induction over the nodes that are met when an outline is made: what holds of siblings as soon
as it holds inside each of them holds of all. -/
theorem inner_induction (s : Sheet) {motive : List Node → Prop}
    (h : ∀ ns, (∀ n ∈ ns, motive (s.inner n)) → motive ns) (ns : List Node) : motive ns := by
  -- inside a node can be the children of a child, so both levels are carried along
  have hboth (n : Node) : motive (s.inner n) ∧ motive n.children := by
    induction n with
    | node i cs ih =>
      have hcs : motive cs := h cs fun c hc => (ih c hc).1
      refine ⟨?_, hcs⟩
      rcases s.inner_eq (.node i cs) with hnil | hself | ⟨b, hb, hblock⟩
      · rw [hnil]
        exact h [] (List.forall_mem_nil _)
      · rw [hself]
        exact hcs
      · rw [hblock]
        exact (ih b hb).2
  exact h ns fun n _ => (hboth n).1

theorem outlineOfBlock_eq (s : Sheet) (ns : List Node) :
    s.outlineOfBlock ns =
      s.outlineOf (((Node.ofKind? "block" ns).map Node.children).getD []) := by
  induction ns with
  | nil => rfl
  | cons n rest ih =>
    obtain ⟨i, cs⟩ := n
    rw [outlineOfBlock, outlineInside?, Node.ofKind?]
    by_cases hblock : i.kind = "block"
    · rw [if_pos hblock, List.find?_cons_of_pos (by simpa [Node.kind, Node.info] using hblock)]
      rfl
    · rw [if_neg hblock, List.find?_cons_of_neg (by simpa [Node.kind, Node.info] using hblock)]
      exact ih

theorem getD_below (entries : List Symbol) : (below entries).getD [] = entries := by
  cases entries <;> rfl

/-- **The entries of a node** are its own, if it has one, over those of the nodes inside. -/
theorem outlineOfNode_eq (s : Sheet) (n : Node) :
    s.outlineOfNode n =
      if n.info.named then
        Shift.hoist (s.entry? n.info n.children) (below (s.outlineOf (s.inner n)))
      else [] := by
  obtain ⟨i, cs⟩ := n
  rw [outlineOfNode]
  by_cases hnamed : i.named
  · by_cases hdeclaration : i.kind = "declaration"
    · cases hentry : s.entry? i cs <;>
        simp [hnamed, hdeclaration, hentry, inner, Node.info, Node.children, Node.kind,
          Shift.hoist, outlineOf, below]
    · cases hentry : s.entry? i cs <;>
        simp [hnamed, hdeclaration, hentry, inner, Node.info, Node.children, Node.kind,
          Shift.hoist, outlineOfBlock_eq, Node.childOfKind?, getD_below]
  · simp [hnamed, Node.info]

theorem outlineOf_eq_flatMap (s : Sheet) (ns : List Node) :
    s.outlineOf ns = ns.flatMap s.outlineOfNode := by
  induction ns with
  | nil => rfl
  | cons n rest ih => rw [outlineOf, List.flatMap_cons, ih]

/-! ### Which nodes have an entry -/

/-- A node is met when the outline of some siblings is made: it is one of them, or it is met inside
one of them. Only nodes with a name count. -/
inductive Exposed (s : Sheet) : List Node → Node → Prop
  /-- One of the siblings. -/
  | here {ns : List Node} {n : Node} (hn : n ∈ ns) (hnamed : n.info.named) : Exposed s ns n
  /-- A node inside one of them. -/
  | inside {ns : List Node} {n m : Node} (hn : n ∈ ns) (hnamed : n.info.named)
      (hm : Exposed s (s.inner n) m) : Exposed s ns m

theorem mem_listing_outlineOf {s : Sheet} {ns : List Node} {i : SymbolInfo} :
    i ∈ Symbol.listing (s.outlineOf ns) ↔
      ∃ n ∈ ns, n.info.named ∧ (s.entry? n.info n.children = some i ∨
        i ∈ Symbol.listing (s.outlineOf (s.inner n))) := by
  induction ns with
  | nil => simp [outlineOf, Symbol.listing]
  | cons n rest ih =>
    rw [outlineOf, Symbol.listing_append, List.mem_append, ih]
    simp only [List.mem_cons, exists_eq_or_imp]
    refine or_congr_left ?_
    rw [outlineOfNode_eq]
    by_cases hnamed : n.info.named
    · simp [hnamed, Symbol.listing_hoist, getD_below]
    · simp [hnamed, Symbol.listing]

/-- **Which entries an outline has.** They are those of the nodes that are met. -/
theorem mem_listing_outlineOf_iff (s : Sheet) (ns : List Node) (i : SymbolInfo) :
    i ∈ Symbol.listing (s.outlineOf ns) ↔
      ∃ n, s.Exposed ns n ∧ s.entry? n.info n.children = some i := by
  induction ns using s.inner_induction with
  | h ns ih =>
    rw [mem_listing_outlineOf]
    constructor
    · rintro ⟨n, hn, hnamed, hentry | hinner⟩
      · exact ⟨n, .here hn hnamed, hentry⟩
      · obtain ⟨m, hm, hentry⟩ := (ih n hn).mp hinner
        exact ⟨m, .inside hn hnamed hm, hentry⟩
    · rintro ⟨m, hm, hentry⟩
      cases hm with
      | here hn hnamed => exact ⟨m, hn, hnamed, .inl hentry⟩
      | inside hn hnamed hm => exact ⟨_, hn, hnamed, .inr ((ih _ hn).mpr ⟨m, hm, hentry⟩)⟩

/-! ### Where the entries are -/

theorem exists_of_propertyOf? {ns : List Node} {i : NodeInfo} (h : propertyOf? ns = some i) :
    ∃ n ∈ ns, n.info = i := by
  cases ns with
  | nil => cases h
  | cons n rest =>
    rw [propertyOf?] at h
    split at h
    · exact ⟨n, List.mem_cons_self, Option.some.inj h⟩
    · cases h

theorem atKeyword_eq (s : Sheet) (i : NodeInfo) (ns : List Node) :
    s.atKeyword i ns = i ∨ ∃ n ∈ ns, n.info = s.atKeyword i ns := by
  cases ns with
  | nil => exact .inl rfl
  | cons n rest =>
    rw [atKeyword]
    split
    · exact .inr ⟨n, List.mem_cons_self, rfl⟩
    · exact .inl rfl

/-- **The ranges of an entry.** It has the range of its node; that of the node or of a child is
selected. -/
theorem ranges_of_entry {s : Sheet} {i : NodeInfo} {cs : List Node} {info : SymbolInfo}
    (h : s.entry? i cs = some info) :
    info.range = s.rangeOf i ∧
      ∃ j, (j = i ∨ ∃ c ∈ cs, c.info = j) ∧ info.selectionRange = s.rangeOf j := by
  unfold entry? at h
  split at h
  · obtain ⟨selectors, hselectors, rfl⟩ := Option.map_eq_some_iff.mp h
    exact ⟨rfl, _, .inr ⟨selectors, List.mem_of_find?_eq_some hselectors, rfl⟩, rfl⟩
  · split at h
    · obtain ⟨property, hproperty, hcustom⟩ := Option.bind_eq_some_iff.mp h
      dsimp only at hcustom
      split at hcustom
      · obtain rfl := Option.some.inj hcustom
        exact ⟨rfl, _, .inr (exists_of_propertyOf? hproperty), rfl⟩
      · cases hcustom
    · split at h
      · obtain rfl := Option.some.inj h
        exact ⟨rfl, _, s.atKeyword_eq i cs, rfl⟩
      · cases h

/-- The range of a well-formed node that lies between two offsets. -/
theorem rangeOf_within (s : Sheet) {n : Node} {start stop : Nat} (h : n.WellFormed s.text)
    (hstart : start ≤ n.info.start) (hstop : n.info.stop ≤ stop) :
    (s.rangeOf n.info).Within (s.text.rangeAt start stop) :=
  s.text.rangeAt_within hstart h.placed.start_le_stop hstop

/-- What an entry of a well-formed node selects is in the range of that node. -/
theorem selectionRange_within {s : Sheet} {n : Node} {info : SymbolInfo} (h : n.WellFormed s.text)
    (hentry : s.entry? n.info n.children = some info) :
    info.selectionRange.Within (s.rangeOf n.info) := by
  obtain ⟨-, j, hj, hselection⟩ := ranges_of_entry hentry
  rw [hselection]
  rcases hj with rfl | ⟨c, hc, rfl⟩
  · exact s.rangeOf_within h le_rfl le_rfl
  · obtain ⟨hstart, hstop⟩ := h.row.within c hc
    exact s.rangeOf_within (h.row.wellFormed c hc) hstart hstop

/-- The nodes inside a well-formed node are a row in what it covers. -/
theorem row_inner (s : Sheet) {n : Node} (h : n.WellFormed s.text) :
    Node.Row s.text n.info.start n.info.stop (s.inner n) := by
  rcases s.inner_eq n with hnil | hself | ⟨b, hb, hblock⟩
  · rw [hnil]
    exact Node.row_nil _ _ _
  · rw [hself]
    exact h.row
  · rw [hblock]
    obtain ⟨hstart, hstop⟩ := h.row.within b hb
    exact (h.row.wellFormed b hb).row.mono hstart hstop

/-- **The entries of siblings are well nested** in each range around them. -/
theorem nestedIn_outlineOf (s : Sheet) {start stop : Nat} {ns : List Node}
    (h : Node.Row s.text start stop ns) :
    Symbol.NestedIn (s.text.rangeAt start stop) (s.outlineOf ns) := by
  induction ns using s.inner_induction generalizing start stop with
  | h ns ih =>
    have hwithin (n : Node) (hn : n ∈ ns) :
        (s.rangeOf n.info).Within (s.text.rangeAt start stop) := by
      obtain ⟨hstart, hstop⟩ := h.within n hn
      exact s.rangeOf_within (h.wellFormed n hn) hstart hstop
    rw [outlineOf_eq_flatMap]
    refine .flatMap (fun n : Node => s.rangeOf n.info) hwithin
      (h.orderly.imp fun hab => s.text.positionAt_le_positionAt hab) fun n hn => ?_
    have hinner := ih n hn (s.row_inner (h.wellFormed n hn))
    rw [outlineOfNode_eq]
    split
    · refine .hoist (hwithin n hn).start_le_stop (fun info hentry => ?_) ?_
      · exact ⟨(ranges_of_entry hentry).1, selectionRange_within (h.wellFormed n hn) hentry⟩
      · rw [getD_below]
        exact hinner
    · exact .intro (List.forall_mem_nil _) (List.forall_mem_nil _) .nil (List.forall_mem_nil _)

end Sheet

/-! ## Entries in a frame -/

namespace Shift

theorem symbols_eq_flatMap (s : Shift) (ss : List Symbol) : s.symbols ss = ss.flatMap s.symbol := by
  induction ss with
  | nil => rfl
  | cons n rest ih => rw [symbols, List.flatMap_cons, ih]

theorem getD_symbolsBelow (s : Shift) (children : Option (List Symbol)) :
    (s.symbolsBelow children).getD [] = s.symbols (children.getD []) := by
  cases children <;> rfl

/-- An entry is kept with the parts of its ranges that are in the fragment, which are all of
them. -/
theorem ranges_of_symbolInfo? {s : Shift} {i i' : SymbolInfo} (h : s.symbolInfo? i = some i') :
    i'.range = s.cut i.range ∧ i'.selectionRange = s.cut i.selectionRange := by
  obtain ⟨range, hrange, hrest⟩ := Option.bind_eq_some_iff.mp h
  obtain ⟨selectionRange, hselection, hinfo⟩ := Option.bind_eq_some_iff.mp hrest
  obtain rfl := Option.some.inj hinfo
  exact ⟨(cut_of_leaveRange? hrange).symm, (cut_of_leaveRange? hselection).symm⟩

/-- **Entries stay well nested in the fragment.** Whether an entry is kept or what is below it takes
its place, the result is well nested in the part of its range that is in the fragment. -/
theorem nestedIn_symbols (s : Shift) {r : Range} {ss : List Symbol} (h : Symbol.NestedIn r ss) :
    Symbol.NestedIn (s.cut r) (s.symbols ss) := by
  induction h with
  | @intro r ss within selected apart below ih =>
    rw [symbols_eq_flatMap]
    refine .flatMap (fun x : Symbol => s.cut x.info.range)
      (fun x hx => s.cut_within_cut (within x hx))
      (apart.imp fun hab => s.clampStart_le_clampStart hab) fun x hx => ?_
    obtain ⟨i, children⟩ := x
    rw [symbol]
    refine .hoist (s.cut_within_cut (within _ hx)).start_le_stop (fun i' hinfo => ?_) ?_
    · obtain ⟨hrange, hselection⟩ := ranges_of_symbolInfo? hinfo
      exact ⟨hrange, hselection ▸ s.cut_within_cut (selected _ hx)⟩
    · rw [getD_symbolsBelow]
      exact ih _ hx

/-- **No entry of the fragment is lost**, and none is moved past another. -/
theorem listing_symbols (s : Shift) (ss : List Symbol) :
    Symbol.listing (s.symbols ss) = (Symbol.listing ss).filterMap s.symbolInfo? := by
  -- from single entries to outlines, which is needed below each entry and at the top
  have hall (ss : List Symbol)
      (h : ∀ n ∈ ss, Symbol.listing (s.symbol n) = n.listingOf.filterMap s.symbolInfo?) :
      Symbol.listing (s.symbols ss) = (Symbol.listing ss).filterMap s.symbolInfo? := by
    induction ss with
    | nil => rfl
    | cons n rest ih =>
      obtain ⟨hn, hrest⟩ := List.forall_mem_cons.mp h
      rw [symbols, Symbol.listing_append, Symbol.listing, List.filterMap_append, hn, ih hrest]
  have hone (n : Symbol) :
      Symbol.listing (s.symbol n) = n.listingOf.filterMap s.symbolInfo? := by
    induction n with
    | node i children ih =>
      rw [symbol, Symbol.listing_hoist, getD_symbolsBelow, hall _ ih, Symbol.listingOf,
        Symbol.listingBelow_eq, List.filterMap_cons]
      cases s.symbolInfo? i <;> rfl
  exact hall ss fun n _ => hone n

end Shift

/-! ## What the client is shown -/

/-- **The outline of a fragment is well nested.** If the stylesheet around a fragment has a
well-formed tree, the service shows the outline of that tree, moved into the fragment: each entry
is in the fragment and in the entry above it, contains the part of it that is selected, and follows
its neighbour without overlap. Nothing is left out to reach this: the entries are those of all nodes
that an outline meets, as far as they are in the fragment. -/
theorem Service.ask_symbols_nestedIn {parse : Parser} (lint : Lint) {frame : Frame} {d : Document}
    {tree : Tree} (hparse : parse (Framed.mk frame d).sheet.text = some tree)
    (htree : tree.root.WellFormed (Framed.mk frame d).sheet.text) :
    let f : Framed := ⟨frame, d⟩
    let s : Sheet := ⟨f.sheet.text, tree⟩
    let shown := f.shift.symbols s.outline
    (Service.mk (.css parse lint) frame).ask d .symbols () = .ok shown ∧
      Symbol.NestedIn ⟨.origin, d.text.endPosition⟩ shown ∧
      ∀ i', i' ∈ Symbol.listing shown ↔
        ∃ n i, s.Exposed tree.root.children n ∧ s.entry? n.info n.children = some i ∧
          f.shift.symbolInfo? i = some i' := by
  intro f s shown
  refine ⟨?_, ?_, fun i' => ?_⟩
  · have hanswer := Analyzer.answer_css_of_parse lint hparse .symbols ()
    exact ask_of_answer (by decide) (Option.isSome_iff_exists.mpr ⟨tree, hparse⟩) rfl hanswer
  · have hroot := f.sheet.text.positionAt_le_positionAt htree.placed.start_le_stop
    have houtline := s.nestedIn_outlineOf htree.row
    exact (f.shift.nestedIn_symbols houtline).mono (f.shift.cut_within_content hroot)
  · rw [Shift.listing_symbols, List.mem_filterMap]
    simp only [s, Sheet.outline, Sheet.mem_listing_outlineOf_iff]
    constructor
    · rintro ⟨i, ⟨n, hn, hentry⟩, hi⟩
      exact ⟨n, i, hn, hentry, hi⟩
    · rintro ⟨n, i, hn, hentry, hi⟩
      exact ⟨i, ⟨n, hn, hentry⟩, hi⟩

/-- A node without errors. -/
def Node.sample (kind : String) (named : Bool) (start stop : Nat) (children : List Node) : Node :=
  .node ⟨kind, named, false, false, start, stop⟩ children

/-- The tree of a fragment with a custom property and a rule that has one too, in its frame. -/
def Tree.outlineSample : Tree where
  pins := []
  root :=
    .sample "stylesheet" true 0 24 [
      .sample "rule_set" true 0 24 [
        .sample "selectors" true 0 5 [],
        .sample "block" true 6 24 [
          .sample "\x7b" false 6 7 [],
          .sample "declaration" true 8 14 [
            .sample "property_name" true 8 11 [],
            .sample ":" false 11 12 [],
            .sample "plain_value" true 12 13 [],
            .sample ";" false 13 14 []],
          .sample "rule_set" true 14 22 [
            .sample "selectors" true 14 15 [],
            .sample "block" true 15 22 [
              .sample "\x7b" false 15 16 [],
              .sample "declaration" true 16 21 [
                .sample "property_name" true 16 19 [],
                .sample ":" false 19 20 [],
                .sample "plain_value" true 20 21 []],
              .sample "\x7d" false 21 22 []]],
          .sample "\x7d" false 23 24 []]]]

/-- The rule of the frame has no place in the fragment, so that what is below it moves up. The
custom property in a rule of the fragment stays below that rule. -/
theorem Service.ask_symbols_nestedIn_hoisted :
    let d : Document := ⟨"untitled:1", 1, "--x:y;a\x7b--b:c\x7d".toList⟩
    let f : Framed := ⟨.standard, d⟩
    let s : Sheet := ⟨f.sheet.text, .outlineSample⟩
    let shown : List Symbol := [
      .node (Sheet.plainEntry "--x".toList .customProperty ⟨⟨0, 0⟩, ⟨0, 6⟩⟩ ⟨⟨0, 0⟩, ⟨0, 3⟩⟩) none,
      .node (Sheet.plainEntry "a".toList .rule ⟨⟨0, 6⟩, ⟨0, 14⟩⟩ ⟨⟨0, 6⟩, ⟨0, 7⟩⟩) (some [
        .node (Sheet.plainEntry "--b".toList .customProperty ⟨⟨0, 8⟩, ⟨0, 13⟩⟩ ⟨⟨0, 8⟩, ⟨0, 11⟩⟩)
          none])]
    s.tree.root.WellFormed s.text ∧
      (Service.mk (.css (fun _ => some .outlineSample) .standard) .standard).ask d .symbols () =
        .ok shown ∧
      Symbol.NestedIn ⟨.origin, ⟨0, 14⟩⟩ shown ∧
      ∀ i', i' ∈ Symbol.listing shown ↔
        ∃ n i, s.Exposed s.tree.root.children n ∧ s.entry? n.info n.children = some i ∧
          f.shift.symbolInfo? i = some i' := by
  intro d f s shown
  have htree : s.tree.root.WellFormed s.text := by decide +kernel
  have hparse : (fun _ => some .outlineSample : Parser) s.text = some .outlineSample := rfl
  have hshown : f.shift.symbols s.outline = shown := by rfl
  rw [← hshown]
  exact ⟨htree, ask_symbols_nestedIn .standard hparse htree⟩

end CssFragments
