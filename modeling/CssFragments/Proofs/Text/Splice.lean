import CssFragments.Editor.Edit
import CssFragments.Proofs.Text.Offset

/-! # Splices

A splice replaces the characters between two places of a text, which are given by the number of
characters before them. Edits that are meant for one text are resolved to splices of that text and
made together: the last one first, so that the places of the others stay what they are.

* `TextEdit.splice`: the splice that an edit makes.
* `Splice.Apart`: two splices that do not overlap.
* `TextEdit.applyTogether`: the text after edits that were made together.
* `Splice.apply_moved`, `Splice.applyAll_moved`: text before and after what is replaced stays.
* `Splice.kept`: what is left between splices; `Splice.take_append_intercalate_kept` and
  `Splice.foldr_apply_eq` put a text together from it, before and after the splices. -/

namespace CssFragments

/-- A piece of a text, by the characters before its start and its stop, with the text that takes its
place. -/
structure Splice where
  start : Nat
  stop : Nat
  text : Text
  start_le_stop : start ≤ stop

namespace Splice

/-- The text after the splice. -/
def apply (e : Splice) (t : Text) : Text := t.take e.start ++ e.text ++ t.drop e.stop

/-- The splice in a text with `n` more characters at its beginning. -/
def moved (n : Nat) (e : Splice) : Splice :=
  ⟨n + e.start, n + e.stop, e.text, Nat.add_le_add_left e.start_le_stop n⟩

/-- No character is replaced by both, and none of them inserts inside the other. -/
def Apart (a b : Splice) : Prop := a.stop ≤ b.start ∨ b.stop ≤ a.start

instance (a b : Splice) : Decidable (Apart a b) :=
  inferInstanceAs (Decidable (a.stop ≤ b.start ∨ b.stop ≤ a.start))

/-- By start, then by stop, so that what is inserted comes before what is replaced at one place. -/
def precedes (a b : Splice) : Bool :=
  decide (a.start < b.start ∨ a.start = b.start ∧ a.stop ≤ b.stop)

/-- Makes splices of one text together. They are made from the last one to the first: what was
replaced is behind all that is still to be replaced. -/
def applyAll (es : List Splice) (t : Text) : Text := (es.mergeSort precedes).foldr apply t

end Splice

namespace TextEdit

/-- The splice that an edit makes; a range whose end precedes its start inserts at the start. -/
def splice (t : Text) (e : TextEdit) : Splice where
  start := t.indexAt e.range.start
  stop := max (t.indexAt e.range.stop) (t.indexAt e.range.start)
  text := e.newText.toList
  start_le_stop := Nat.le_max_right _ _

/-- The text after edits that were all meant for it. -/
def applyTogether (es : List TextEdit) (t : Text) : Text := Splice.applyAll (es.map (splice t)) t

/-- To make one edit is to make its splice. -/
theorem apply_change (e : TextEdit) (t : Text) : e.change.apply t = (e.splice t).apply t := rfl

/-- An edit replaces nothing behind the end. -/
theorem stop_splice_le (e : TextEdit) (t : Text) : (e.splice t).stop ≤ t.length :=
  Nat.max_le.mpr ⟨Text.indexAt_le_length _ _, Text.indexAt_le_length _ _⟩

end TextEdit

namespace Splice

/-! ## One splice inside a longer text -/

/-- **A splice of an inner text.** What stands around the inner text stays. -/
theorem apply_moved (e : Splice) (s u : Text) {t : Text} (h : e.stop ≤ t.length) :
    (e.moved s.length).apply (s ++ (t ++ u)) = s ++ (e.apply t ++ u) := by
  have hstart : e.start ≤ t.length := Nat.le_trans e.start_le_stop h
  simp only [apply, moved]
  rw [List.take_length_add_append, List.take_append_of_le_length hstart,
    List.drop_length_add_append, List.drop_append_of_le_length h]
  simp only [List.append_assoc]

/-! ## Several splices -/

/-- A place before all splices is still there after them. -/
theorem le_length_foldr_apply {n : Nat} {es : List Splice} {t : Text} (hn : n ≤ t.length)
    (hes : ∀ e ∈ es, n ≤ e.start) : n ≤ (es.foldr apply t).length := by
  induction es with
  | nil => exact hn
  | cons e es ih =>
    have hrest := ih fun e' he' => hes e' (List.mem_cons_of_mem _ he')
    have hstart := hes e List.mem_cons_self
    rw [List.foldr_cons, apply, List.length_append, List.length_append, List.length_take]
    omega

/-- Splices of an inner text, each behind the one before it. -/
theorem foldr_apply_moved (s u : Text) {t : Text} {es : List Splice}
    (hord : es.Pairwise fun a b => a.stop ≤ b.start) (hle : ∀ e ∈ es, e.stop ≤ t.length) :
    (es.map (moved s.length)).foldr apply (s ++ (t ++ u)) = s ++ (es.foldr apply t ++ u) := by
  induction es with
  | nil => rfl
  | cons e es ih =>
    obtain ⟨hfirst, hrest⟩ := List.pairwise_cons.mp hord
    -- the splices behind `e` leave all characters up to the stop of `e` in place
    have hstop : e.stop ≤ (es.foldr apply t).length :=
      le_length_foldr_apply (hle e List.mem_cons_self) hfirst
    rw [List.map_cons, List.foldr_cons, ih hrest fun e' he' => hle e' (List.mem_cons_of_mem _ he'),
      apply_moved e s u hstop, List.foldr_cons]

theorem precedes_iff {a b : Splice} :
    a.precedes b ↔ a.start < b.start ∨ a.start = b.start ∧ a.stop ≤ b.stop := decide_eq_true_iff

/-- Splices keep their order when they are moved together. -/
theorem precedes_moved (n : Nat) (a b : Splice) :
    (a.moved n).precedes (b.moved n) = a.precedes b := by
  rw [Bool.eq_iff_iff, precedes_iff, precedes_iff]
  simp only [moved]
  omega

/-- Of two splices that are apart, the one that is made later ends where the other starts, or
before. -/
theorem stop_le_start_of_precedes {a b : Splice} (hab : a.precedes b) (h : a.Apart b) :
    a.stop ≤ b.start := by
  have ha := a.start_le_stop
  have hb := b.start_le_stop
  rw [precedes_iff] at hab
  rcases h with h | h <;> omega

/-- Splices that are apart follow each other once they are sorted. -/
theorem pairwise_mergeSort_of_apart {es : List Splice} (h : es.Pairwise Apart) :
    (es.mergeSort precedes).Pairwise fun a b => a.stop ≤ b.start := by
  have hsorted : (es.mergeSort precedes).Pairwise fun a b => a.precedes b := by
    refine List.pairwise_mergeSort (fun a b c hab hbc => ?_) (fun a b => ?_) es
    · rw [precedes_iff] at *
      omega
    · rw [Bool.or_eq_true, precedes_iff, precedes_iff]
      omega
  have happart : (es.mergeSort precedes).Pairwise Apart :=
    (List.Perm.pairwise_iff (fun hab => hab.symm) (List.mergeSort_perm es precedes)).mpr h
  exact hsorted.imp₂ (fun _ _ => stop_le_start_of_precedes) happart

/-- **Splices of an inner text, made together.** What stands around the inner text stays. -/
theorem applyAll_moved (s u : Text) {t : Text} {es : List Splice} (h : es.Pairwise Apart)
    (hle : ∀ e ∈ es, e.stop ≤ t.length) :
    applyAll (es.map (moved s.length)) (s ++ (t ++ u)) = s ++ (applyAll es t ++ u) := by
  have hmove : (es.map (moved s.length)).mergeSort precedes =
      (es.mergeSort precedes).map (moved s.length) :=
    (List.map_mergeSort fun a _ b _ => (precedes_moved s.length a b).symm).symm
  rw [applyAll, hmove]
  exact foldr_apply_moved s u (pairwise_mergeSort_of_apart h)
    fun e he => hle e (List.mem_mergeSort.mp he)

/-- Splices stay apart when they are moved together. -/
theorem apart_moved_iff {n : Nat} {a b : Splice} : (a.moved n).Apart (b.moved n) ↔ a.Apart b := by
  simp only [Apart, moved]
  omega

/-! ## What is left between splices -/

/-- The pieces of a text from `i` on that splices leave: those before, between and behind them. -/
def kept (t : Text) (i : Nat) : List Splice → List Text
  | [] => [t.drop i]
  | e :: es => (t.take e.start).drop i :: kept t e.stop es

theorem kept_ne_nil (t : Text) (i : Nat) (es : List Splice) : kept t i es ≠ [] := by
  cases es <;> exact List.cons_ne_nil _ _

/-- What is taken is what was taken before and the rest of it. -/
theorem take_append_drop_take (t : Text) {i j : Nat} (h : i ≤ j) :
    t.take i ++ (t.take j).drop i = t.take j := by
  have htake := List.take_append_drop i (t.take j)
  rwa [List.take_take, Nat.min_eq_left h] at htake

/-- **A text, by what splices leave of it.** Where all that is replaced is the same text, that text
stands between the pieces. -/
theorem take_append_intercalate_kept {t old : Text} {i : Nat} {es : List Splice}
    (hi : ∀ e ∈ es, i ≤ e.start) (hord : es.Pairwise fun a b => a.stop ≤ b.start)
    (hold : ∀ e ∈ es, (t.take e.stop).drop e.start = old) :
    t.take i ++ old.intercalate (kept t i es) = t := by
  induction es generalizing i with
  | nil => rw [kept, List.intercalate_singleton, List.take_append_drop]
  | cons e es ih =>
    obtain ⟨hfirst, hrest⟩ := List.pairwise_cons.mp hord
    have hi := hi e List.mem_cons_self
    have hold' := hold e List.mem_cons_self
    have ih := ih hfirst hrest fun e' he' => hold e' (List.mem_cons_of_mem _ he')
    calc t.take i ++ old.intercalate (kept t i (e :: es))
        = t.take i ++ (t.take e.start).drop i ++ old ++ old.intercalate (kept t e.stop es) := by
          rw [kept, List.intercalate_cons_of_ne_nil (kept_ne_nil _ _ _), ← List.append_assoc,
            ← List.append_assoc]
      _ = t.take e.stop ++ old.intercalate (kept t e.stop es) := by
          rw [take_append_drop_take t hi, ← hold', take_append_drop_take t e.start_le_stop]
      _ = t := ih

/-- **A text after splices, by what they leave of it.** Where all splices put in the same text, that
text stands between the pieces. -/
theorem foldr_apply_eq {t new : Text} {i : Nat} {es : List Splice}
    (hi : ∀ e ∈ es, i ≤ e.start) (hord : es.Pairwise fun a b => a.stop ≤ b.start)
    (hle : ∀ e ∈ es, e.stop ≤ t.length) (hnew : ∀ e ∈ es, e.text = new) :
    es.foldr apply t = t.take i ++ new.intercalate (kept t i es) := by
  induction es generalizing i with
  | nil => rw [kept, List.intercalate_singleton, List.take_append_drop, List.foldr_nil]
  | cons e es ih =>
    obtain ⟨hfirst, hrest⟩ := List.pairwise_cons.mp hord
    have hi := hi e List.mem_cons_self
    have hstop := hle e List.mem_cons_self
    have ih := ih hfirst hrest (fun e' he' => hle e' (List.mem_cons_of_mem _ he'))
      fun e' he' => hnew e' (List.mem_cons_of_mem _ he')
    -- the splices behind `e` begin where `e` stops, or later
    have hlength : (t.take e.stop).length = e.stop := List.length_take_of_le hstop
    have hbefore : (es.foldr apply t).take e.start = t.take e.start := by
      rw [ih, List.take_append_of_le_length (by rw [hlength]; exact e.start_le_stop),
        List.take_take, Nat.min_eq_left e.start_le_stop]
    have hafter : (es.foldr apply t).drop e.stop = new.intercalate (kept t e.stop es) := by
      rw [ih, List.drop_left' hlength]
    calc (e :: es).foldr apply t
        = t.take e.start ++ new ++ new.intercalate (kept t e.stop es) := by
          rw [List.foldr_cons, apply, hbefore, hafter, hnew e List.mem_cons_self]
      _ = t.take i ++ new.intercalate (kept t i (e :: es)) := by
          rw [kept, List.intercalate_cons_of_ne_nil (kept_ne_nil _ _ _), ← List.append_assoc,
            ← List.append_assoc, take_append_drop_take t hi]

/-- Splices that follow each other are in order as they are. -/
theorem applyAll_of_pairwise {es : List Splice} (hord : es.Pairwise fun a b => a.stop ≤ b.start)
    (t : Text) : applyAll es t = es.foldr apply t := by
  have hsorted : es.Pairwise fun a b => a.precedes b := by
    refine hord.imp fun {a b} hab => ?_
    have ha := a.start_le_stop
    have hb := b.start_le_stop
    rw [precedes_iff]
    omega
  rw [applyAll, List.mergeSort_of_pairwise hsorted]

end Splice

end CssFragments
