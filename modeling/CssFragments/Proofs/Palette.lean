import CssFragments.Proofs.HexColor
import CssFragments.Proofs.RenameEdits
import CssFragments.Proofs.Tree.Outermost
import CssFragments.Sheet.Palette
import Mathlib.Data.List.Forall2

/-! # The outermost colors

Colors are looked for from the root down. What is in a node that was read as a color is left out,
and what is in one that could not be read is not. Whether a node is in a value is known on the way
down from the nodes around it, of which the innermost that is a declaration, a rule or a part of one
counts.

* `NamedColor.IsName`: the names that are colors by themselves, beside `Color.IsHex`.
* `Sheet.WritesColor`, `Sheet.isSome_colorOf?_iff`: the nodes that are read as colors.
* `Located.InValue`, `Located.decide_inValue_cons`: the nodes that are in values.
* `Sheet.colors_eq`: the colors of a stylesheet are those of the outermost nodes.
* `Sheet.WritesColor.start_lt_stop`: no color is written in no text.
* `Sheet.colors_outermost`: which colors there are, and where. -/

namespace CssFragments

/-! ## Colors by themselves -/

namespace Color

/-- Arguments stand in parentheses. -/
theorem ne_nil_of_isSome_ofFunction? {name args : Text} (h : (ofFunction? name args).isSome) :
    args ≠ [] := by
  rintro rfl
  have hargs : inParentheses? [] = none := rfl
  simp [ofFunction?, hargs] at h

end Color

/-- The name of a color, in any case. -/
def NamedColor.IsName (t : Text) : Prop := ∃ c ∈ table, c.name = String.ofList t.toLower

theorem NamedColor.isSome_find?_iff {t : Text} : (find? t).isSome ↔ IsName t := by
  simp [find?, IsName]

theorem NamedColor.IsName.ne_nil {t : Text} (h : IsName t) : t ≠ [] := by
  rintro rfl
  exact absurd h (by unfold IsName; decide)

/-! ## Nodes that are colors -/

/-- The node is in the value of a declaration: of the declarations, rules and parts of rules around
it, the innermost is a declaration. -/
def Located.InValue (l : Located) : Prop :=
  (l.ancestors.find? fun n => n.kind ∈ ["declaration", "selectors", "rule_set", "block"]).map
    Node.kind = some "declaration"

instance : DecidablePred Located.InValue := fun _ =>
  inferInstanceAs (Decidable (Option.map _ _ = some "declaration"))

/-- **One step down** tells whether a node is in a value from whether its parent is. -/
theorem Located.decide_inValue_cons (c n : Node) (above : List Node) :
    decide (InValue ⟨c, n :: above⟩) = Sheet.holdsValue n.kind (decide (InValue ⟨n, above⟩)) := by
  unfold InValue Sheet.holdsValue
  by_cases hdeclaration : n.kind = "declaration"
  · simp [hdeclaration]
  · by_cases hrule : n.kind = "selectors" ∨ n.kind = "rule_set" ∨ n.kind = "block"
    · rcases hrule with hkind | hkind | hkind <;> simp [hkind]
    · -- the parent does not count, and what is around it does
      obtain ⟨hselectors, hset, hblock⟩ : n.kind ≠ "selectors" ∧ n.kind ≠ "rule_set" ∧
          n.kind ≠ "block" := by
        simpa using hrule
      simp [hdeclaration, hselectors, hset, hblock]

namespace Sheet

/-- The node is a color: in hexadecimal notation, by name, or as a function that can be read. There
is no error in it. -/
inductive WritesColor (s : Sheet) (n : Node) : Prop
  /-- Digits. -/
  | hex (kind : n.kind = "color_value") (correct : n.info.hasError = false)
      (text : Color.IsHex (s.textOf n.info)) : WritesColor s n
  /-- A name. -/
  | named (kind : n.kind = "plain_value") (correct : n.info.hasError = false)
      (text : NamedColor.IsName (s.textOf n.info)) : WritesColor s n
  /-- A function. -/
  | function {name arguments : Node} (kind : n.kind = "call_expression")
      (correct : n.info.hasError = false) (hname : n.childOfKind? "function_name" = some name)
      (harguments : n.childOfKind? "arguments" = some arguments)
      (text : (Color.ofFunction? (s.textOf name.info) (s.textOf arguments.info)).isSome) :
      WritesColor s n

variable {s : Sheet}

/-- **The nodes that are read as colors.** -/
theorem isSome_colorOf?_iff {n : Node} :
    (s.colorOf? n.info n.children).isSome ↔ s.WritesColor n := by
  have hkind : n.kind = n.info.kind := rfl
  constructor
  · intro h
    rw [colorOf?] at h
    split_ifs at h with herror hhex hnamed hfunction
    · cases h
    · exact .hex hhex (by simpa using herror) (Color.isSome_ofHex?_iff.mp h)
    · rw [Option.isSome_map] at h
      exact .named hnamed (by simpa using herror) (NamedColor.isSome_find?_iff.mp h)
    · obtain ⟨c, hc⟩ := Option.isSome_iff_exists.mp h
      obtain ⟨name, hname, hc⟩ := Option.bind_eq_some_iff.mp hc
      obtain ⟨arguments, harguments, hc⟩ := Option.bind_eq_some_iff.mp hc
      exact .function hfunction (by simpa using herror) hname harguments (by rw [hc]; rfl)
    · cases h
  · intro h
    cases h with
    | hex kind correct text =>
      simpa [colorOf?, ← hkind, kind, correct] using Color.isSome_ofHex?_iff.mpr text
    | named kind correct text =>
      simpa [colorOf?, ← hkind, kind, correct] using NamedColor.isSome_find?_iff.mpr text
    | function kind correct hname harguments text =>
      rw [Node.childOfKind?] at hname harguments
      simpa [colorOf?, ← hkind, kind, correct, hname, harguments] using text

instance : DecidablePred s.WritesColor := fun _ => decidable_of_iff _ isSome_colorOf?_iff

/-- The node is a color in a value. -/
def IsColor (s : Sheet) (l : Located) : Prop := s.WritesColor l.node ∧ l.InValue

instance : DecidablePred s.IsColor := fun l =>
  inferInstanceAs (Decidable (s.WritesColor l.node ∧ l.InValue))

/-! ## The way down -/

theorem colorsInNodes_eq_flatMap (inValue : Bool) (ns : List Node) :
    s.colorsInNodes inValue ns = ns.flatMap (s.colorsInNode inValue) := by
  induction ns with
  | nil => rfl
  | cons n rest ih => rw [colorsInNodes, ih, List.flatMap_cons]

/-- What is reported of a node that is read as a color. -/
def report? (s : Sheet) (n : Node) : Option ColorInformation :=
  (s.colorOf? n.info n.children).map fun c => ⟨s.rangeOf n.info, c.channels⟩

/-- **The colors of a stylesheet** are those of the outermost nodes that are colors in values. -/
theorem colors_eq (s : Sheet) :
    s.colors = (s.tree.root.outermost s.IsColor []).filterMap fun l => s.report? l.node := by
  rw [List.filterMap_eq_flatMap_toList]
  refine Node.flatMap_outermost
    (fun above n => s.colorsInNode (decide (Located.InValue ⟨n, above⟩)) n)
    (fun l => (s.report? l.node).toList) ?stops ?goesOn s.tree.root
  case stops =>
    rintro above ⟨i, cs⟩ ⟨hcolor, hvalue⟩
    obtain ⟨c, hc⟩ := Option.isSome_iff_exists.mp (isSome_colorOf?_iff.mpr hcolor)
    have hc' : s.colorOf? i cs = some c := hc
    simp [colorsInNode, report?, hvalue, hc', Node.info, Node.children]
  case goesOn =>
    rintro above ⟨i, cs⟩ hneg
    have hnone : (if decide (Located.InValue ⟨.node i cs, above⟩) then s.colorOf? i cs else none) =
        none := by
      by_cases hvalue : Located.InValue ⟨.node i cs, above⟩
      · have hcolor : ¬ (s.colorOf? i cs).isSome := fun h =>
          hneg ⟨isSome_colorOf?_iff.mp h, hvalue⟩
        simpa [hvalue] using hcolor
      · simp [hvalue]
    simp only [colorsInNode, hnone, colorsInNodes_eq_flatMap]
    refine List.flatMap_congr fun c _ => ?_
    rw [Located.decide_inValue_cons]
    rfl

/-! ## Where the colors are -/

/-- **No color is written in no text.** -/
theorem WritesColor.start_lt_stop {n : Node} (hn : n ∈ s.nodes)
    (hplaced : ∀ m ∈ s.nodes, m.Placed s.text) (h : s.WritesColor n) :
    n.info.start < n.info.stop := by
  cases h with
  | hex _ _ text => exact Text.lt_of_slice?_eq_some text.ne_nil (slice?_eq_textOf (hplaced n hn))
  | named _ _ text => exact Text.lt_of_slice?_eq_some text.ne_nil (slice?_eq_textOf (hplaced n hn))
  | @function name arguments _ _ _ harguments text =>
    -- the arguments are in what the function covers
    have hmem : arguments ∈ n.children := List.mem_of_find?_eq_some harguments
    have hlt := Text.lt_of_slice?_eq_some (Color.ne_nil_of_isSome_ofFunction? text)
      (slice?_eq_textOf (hplaced _ (Node.mem_preorder_of_mem_children hn hmem)))
    have hwithin := (hplaced n hn).within _ hmem
    omega

/-- The range of an outermost color is not empty. -/
theorem start_lt_stop_of_mem_outermost {l : Located} (htree : s.tree.root.WellFormed s.text)
    (h : l ∈ s.tree.root.outermost s.IsColor []) :
    (s.rangeOf l.node.info).start < (s.rangeOf l.node.info).stop := by
  obtain ⟨hwalk, ⟨hcolor, -⟩, -⟩ := Node.mem_outermost.mp h
  have hn : l.node ∈ s.nodes := Node.node_mem_preorder_of_mem_walk hwalk
  have hlt := hcolor.start_lt_stop hn fun m hm => (htree m hm).1
  obtain ⟨hplaced, -⟩ := htree _ hn
  exact Text.positionAt_lt_positionAt hplaced.isBoundary_start hplaced.isBoundary_stop hlt

theorem range_of_report? {n : Node} {info : ColorInformation} (h : s.report? n = some info) :
    info.range = s.rangeOf n.info := by
  obtain ⟨c, -, rfl⟩ := Option.map_eq_some_iff.mp h
  rfl

/-- A list in which something is found for each element of another one. -/
theorem forall₂_filterMap {α β : Type} {f : α → Option β} {as : List α}
    (h : ∀ a ∈ as, (f a).isSome) : List.Forall₂ (fun a b => f a = some b) as (as.filterMap f) := by
  induction as with
  | nil => exact .nil
  | cons a as ih =>
    obtain ⟨ha, has⟩ := List.forall_mem_cons.mp h
    obtain ⟨b, hb⟩ := Option.isSome_iff_exists.mp ha
    rw [List.filterMap_cons_some hb]
    exact .cons hb (ih has)

/-- **The colors of a stylesheet** with a well-formed tree are those of the nodes that are colors in
values and are not below others of them, in the order of the text. They are written in ranges that
are not empty and follow each other. -/
theorem colors_outermost {s : Sheet} (htree : s.tree.root.WellFormed s.text) :
    List.Forall₂
        (fun l info => ∃ c, s.colorOf? l.node.info l.node.children = some c ∧
          info = ⟨s.rangeOf l.node.info, c.channels⟩)
        (s.tree.root.outermost s.IsColor []) s.colors ∧
      (∀ info ∈ s.colors, info.range.start < info.range.stop) ∧
      s.colors.Pairwise fun a b =>
        a.range.start < b.range.start ∧ a.range.stop ≤ b.range.start := by
  rw [colors_eq]
  refine ⟨?reported, ?nonempty, ?apart⟩
  case reported =>
    have hread : ∀ l ∈ s.tree.root.outermost s.IsColor [], (s.report? l.node).isSome := by
      intro l hl
      obtain ⟨-, ⟨hcolor, -⟩, -⟩ := Node.mem_outermost.mp hl
      rw [report?, Option.isSome_map]
      exact isSome_colorOf?_iff.mpr hcolor
    refine (forall₂_filterMap hread).imp fun l info hinfo => ?_
    obtain ⟨c, hc, rfl⟩ := Option.map_eq_some_iff.mp hinfo
    exact ⟨c, hc, rfl⟩
  case nonempty =>
    intro info hinfo
    obtain ⟨l, hl, hreport⟩ := List.mem_filterMap.mp hinfo
    rw [range_of_report? hreport]
    exact start_lt_stop_of_mem_outermost htree hl
  case apart =>
    refine List.pairwise_filterMap.mpr ((Node.pairwise_outermost htree).imp_of_mem ?_)
    intro l m hl hm hfollows a ha b hb
    rw [range_of_report? ha, range_of_report? hb]
    -- one color ends before the next one starts, and none is empty
    have hle : (s.rangeOf l.node.info).stop ≤ (s.rangeOf m.node.info).start :=
      s.text.positionAt_le_positionAt hfollows
    exact ⟨lt_of_lt_of_le (start_lt_stop_of_mem_outermost htree hl) hle, hle⟩

/-- A stylesheet with a color function that has a color below it, a function that is no color with
two colors in it, and digits that are none. -/
def paletteSample : Sheet where
  text := "a\x7bb:rgb(123,2,3) url(red,#fff) #12\x7d".toList
  tree :=
    { pins := []
      root :=
        .sample "stylesheet" true 0 35 [
          .sample "rule_set" true 0 35 [
            .sample "selectors" true 0 1 [],
            .sample "block" true 1 35 [
              .sample "\x7b" false 1 2 [],
              .sample "declaration" true 2 34 [
                .sample "property_name" true 2 3 [],
                .sample ":" false 3 4 [],
                .sample "call_expression" true 4 16 [
                  .sample "function_name" true 4 7 [],
                  .sample "arguments" true 7 16 [
                    .sample "(" false 7 8 [],
                    .sample "color_value" true 8 11 [],
                    .sample "," false 11 12 [],
                    .sample "integer_value" true 12 13 [],
                    .sample "," false 13 14 [],
                    .sample "integer_value" true 14 15 [],
                    .sample ")" false 15 16 []]],
                .sample "call_expression" true 17 30 [
                  .sample "function_name" true 17 20 [],
                  .sample "arguments" true 20 30 [
                    .sample "(" false 20 21 [],
                    .sample "plain_value" true 21 24 [],
                    .sample "," false 24 25 [],
                    .sample "color_value" true 25 29 [],
                    .sample ")" false 29 30 []]],
                .sample "color_value" true 31 34 []],
              .sample "\x7d" false 34 35 []]]] }

/-- The first function is reported without what is below it, and both colors in the second one
are. -/
theorem colors_outermost_sample :
    let s := paletteSample
    s.tree.root.WellFormed s.text ∧ s.colors.length = 3 ∧
      s.colors.map (·.range) =
        [⟨⟨0, 4⟩, ⟨0, 16⟩⟩, ⟨⟨0, 21⟩, ⟨0, 24⟩⟩, ⟨⟨0, 25⟩, ⟨0, 29⟩⟩] ∧
      (∃ n ∈ s.nodes, n.kind = "color_value" ∧ s.rangeOf n.info = ⟨⟨0, 8⟩, ⟨0, 11⟩⟩ ∧
        (s.colorOf? n.info n.children).isSome) ∧
      ∀ info ∈ s.colors, info.range.start < info.range.stop := by
  intro s
  have htree : s.tree.root.WellFormed s.text := by decide +kernel
  obtain ⟨hreported, hnonempty, -⟩ := colors_outermost htree
  have hlength : (s.tree.root.outermost s.IsColor []).length = 3 := by decide +kernel
  exact ⟨htree, hreported.length_eq ▸ hlength, by decide +kernel, by decide +kernel, hnonempty⟩

end Sheet

end CssFragments
