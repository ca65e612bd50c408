import CssFragments.Proofs.Frame.Shift
import CssFragments.Sheet.Basic

/-! # Offsets in a frame

Positions are moved line by line and column by column, while an analyzer works with byte offsets.
Both agree: into the stylesheet and back, an offset is moved by the size of the opening.

* `Framed.offsetAt_enter`: the offset of a position that was entered.
* `Framed.locate_positionAt`: the place of the position of an offset, and the range of a node. -/

namespace CssFragments

namespace Framed

/-- A fragment of two lines with a character of two bytes, in a frame that begins with such a
character and shares its last line with the fragment. -/
def sample : Framed where
  frame := ⟨['é', '\n', 'a', '\x7b']⟩
  fragment := ⟨"untitled:1", 1, ['b', 'é', '\n', 'c']⟩

/-! ## Into the stylesheet -/

/-- **Entering moves offsets by the size of the opening.** This holds for all positions that can be
entered, also for those behind the end of their line or of the fragment. -/
theorem offsetAt_enter (f : Framed) {p q : Position} (h : f.shift.enter p = .ok q) :
    f.sheet.text.offsetAt q = f.frame.opening.byteSize + f.fragment.text.offsetAt p := by
  have hq : q = f.frame.opening.endPosition + min p f.fragment.text.endPosition := by
    rw [Shift.eq_add_of_enter h, start_shift, contentEnd_shift]
  rw [hq, text_sheet, Text.offsetAt_append_add,
    Text.offsetAt_append_of_le _ (min_le_right _ _), Text.offsetAt_min_endPosition]

/-- A position behind the end of the first line stands for the end of that line, in the fragment as
in the stylesheet. -/
theorem offsetAt_enter_sample :
    sample.shift.enter ⟨0, 9⟩ = .ok ⟨1, 11⟩ ∧
      sample.sheet.text.offsetAt ⟨1, 11⟩ =
        sample.frame.opening.byteSize + sample.fragment.text.offsetAt ⟨0, 9⟩ :=
  ⟨rfl, offsetAt_enter sample rfl⟩

/-! ## Back into the fragment -/

/-- A boundary in the opening has a position in the opening. -/
theorem locate_positionAt_of_lt (f : Framed) {b : Nat} (hb : f.sheet.text.IsBoundary b)
    (hlt : b < f.frame.opening.byteSize) :
    f.shift.locate (f.sheet.text.positionAt b) = .before := by
  rw [text_sheet, Text.isBoundary_append_iff] at hb
  obtain ⟨-, hb⟩ | ⟨hle, -⟩ := hb
  · rw [Shift.locate_eq_before_iff, start_shift, text_sheet,
      Text.positionAt_append_of_le _ (Nat.le_of_lt hlt)]
    exact Text.positionAt_lt_endPosition hb hlt
  · omega

/-- An offset in the fragment has the position that it has there. -/
theorem locate_positionAt_add (f : Framed) {b : Nat} (hle : b ≤ f.fragment.text.byteSize) :
    f.shift.locate (f.sheet.text.positionAt (f.frame.opening.byteSize + b)) =
      .inside (f.fragment.text.positionAt b) := by
  rw [Shift.locate_eq_inside_iff, start_shift, contentEnd_shift, text_sheet,
    Text.positionAt_append_add, Text.positionAt_append_of_le _ hle]
  exact ⟨rfl, Text.positionAt_le_endPosition _ _⟩

/-- An offset in the closing has a position in the closing: at least its line feed is read. -/
theorem locate_positionAt_of_gt (f : Framed) {b : Nat} (hgt : f.fragment.text.byteSize < b) :
    f.shift.locate (f.sheet.text.positionAt (f.frame.opening.byteSize + b)) = .after := by
  obtain ⟨k, rfl⟩ := Nat.exists_eq_add_of_le (Nat.le_of_lt hgt)
  have hk : Position.origin < Frame.closing.positionAt k :=
    Text.origin_lt_positionAt (List.cons_ne_nil _ _) (by omega)
  rw [Shift.locate_eq_after_iff, start_shift, contentEnd_shift, text_sheet,
    Text.positionAt_append_add, Text.positionAt_append_add, Position.add_lt_add_iff_left]
  have h := (Position.add_lt_add_iff_left f.fragment.text.endPosition _ _).mpr hk
  rwa [Position.add_origin] at h

/-- The position of an offset in the fragment leaves as the position that the offset has there. -/
theorem leave?_positionAt (f : Framed) {b : Nat} (hle : f.frame.opening.byteSize ≤ b)
    (hge : b ≤ f.frame.opening.byteSize + f.fragment.text.byteSize) :
    f.shift.leave? (f.sheet.text.positionAt b) =
      some (f.fragment.text.positionAt (b - f.frame.opening.byteSize)) := by
  obtain ⟨k, rfl⟩ := Nat.exists_eq_add_of_le hle
  rw [Nat.add_sub_cancel_left, Shift.leave?_eq_some_iff, ← Shift.locate_eq_inside_iff]
  exact f.locate_positionAt_add (by omega)

/-- **Offsets decide the places of positions.** The position of a boundary is in the opening, in the
fragment or in the closing exactly if the boundary is, and in the fragment it is the position of the
offset less the size of the opening. So a node inside the fragment leaves with the range that its
bytes have in the fragment alone, whatever the frame. -/
theorem locate_positionAt (f : Framed) :
    (∀ b, f.sheet.text.IsBoundary b →
      (f.shift.locate (f.sheet.text.positionAt b) = .before ↔ b < f.frame.opening.byteSize) ∧
      (f.shift.locate (f.sheet.text.positionAt b) =
          .inside (f.fragment.text.positionAt (b - f.frame.opening.byteSize)) ↔
        f.frame.opening.byteSize ≤ b ∧
          b ≤ f.frame.opening.byteSize + f.fragment.text.byteSize) ∧
      (f.shift.locate (f.sheet.text.positionAt b) = .after ↔
        f.frame.opening.byteSize + f.fragment.text.byteSize < b)) ∧
    (∀ (tree : Tree) (i : NodeInfo), f.frame.opening.byteSize ≤ i.start → i.start ≤ i.stop →
      i.stop ≤ f.frame.opening.byteSize + f.fragment.text.byteSize →
      f.shift.leaveRange? ((Sheet.mk f.sheet.text tree).rangeOf i) =
        some (f.fragment.text.rangeAt (i.start - f.frame.opening.byteSize)
          (i.stop - f.frame.opening.byteSize))) := by
  refine ⟨fun b hb => ?_, fun tree i hstart hle hstop => ?_⟩
  · rcases Nat.lt_or_ge b f.frame.opening.byteSize with hlt | hge
    · rw [f.locate_positionAt_of_lt hb hlt]
      simp only [reduceCtorEq, true_iff, false_iff]
      omega
    · obtain ⟨k, rfl⟩ := Nat.exists_eq_add_of_le hge
      rw [Nat.add_sub_cancel_left]
      rcases Nat.lt_or_ge f.fragment.text.byteSize k with hgt | hle
      · rw [f.locate_positionAt_of_gt hgt]
        simp only [reduceCtorEq, true_iff, false_iff]
        omega
      · rw [f.locate_positionAt_add hle]
        simp only [reduceCtorEq, true_iff, false_iff]
        omega
  · rw [Shift.leaveRange?_eq_some_iff]
    exact ⟨f.leave?_positionAt hstart (by omega), f.leave?_positionAt (by omega) hstop⟩

/-- The character of two bytes is left at the place that it has in the fragment: its start is one
character behind the start of the fragment, and its stop one more. -/
theorem locate_positionAt_sample :
    (sample.sheet.text.IsBoundary 6 ∧
      (sample.shift.locate (sample.sheet.text.positionAt 6) =
          .inside (sample.fragment.text.positionAt 1) ↔ 5 ≤ 6 ∧ 6 ≤ 5 + 5)) ∧
    sample.shift.leaveRange?
      ((Sheet.mk sample.sheet.text ⟨.node ⟨"plain_value", true, false, false, 6, 8⟩ [], []⟩).rangeOf
        ⟨"plain_value", true, false, false, 6, 8⟩) = some (sample.fragment.text.rangeAt 1 3) :=
  ⟨⟨by decide, ((locate_positionAt sample).1 6 (by decide)).2.1⟩,
    (locate_positionAt sample).2 _ _ (by decide) (by decide) (by decide)⟩

end Framed

end CssFragments
