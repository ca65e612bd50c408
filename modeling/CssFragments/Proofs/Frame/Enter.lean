import CssFragments.Proofs.Frame.Shift
import CssFragments.Proofs.Text.Lines
import Mathlib.Order.MinMax

/-! # Positions that can be entered

Coordinates have 32 bits. In a stylesheet that is not longer than that allows, all lines can be
numbered, and only one sum can still fail: that of a character on the first line of a fragment and
of the columns before it.

* `Shift.Overflows`: the sum fails.
* `Framed.enter_eq`, `Framed.mapM_enter`: all other positions are entered.
* `Framed.not_overflows_of_isPosition`, `Framed.not_overflows_of_newline`: the positions of a
  fragment never fail, and none does if the opening ends with a line feed.
* `Framed.offsetAt_start_add`, `Framed.positionAt_of_isPosition`: what was entered, by its
  offset. -/

namespace CssFragments

/-- The position counts as one on the first line, and the columns before the fragment take it out
of bounds. -/
def Shift.Overflows (s : Shift) (p : Position) : Prop :=
  (min p s.contentEnd).line = 0 ∧
    Coordinate.bound ≤ (min p s.contentEnd).character + s.columns

instance (s : Shift) (p : Position) : Decidable (s.Overflows p) :=
  inferInstanceAs (Decidable (_ ∧ _))

namespace Framed

variable (f : Framed)

/-- The stylesheet is at least as long as the opening and the fragment. -/
theorem length_append_le_length_sheet :
    (f.frame.opening ++ f.fragment.text).length ≤ f.sheet.text.length := by
  rw [text_sheet, List.length_append, List.length_append, List.length_append]
  omega

/-- The lines of the fragment are lines of the stylesheet, which has no more of them than
characters. -/
theorem line_add_lines_le_length {p : Position} (hp : p ≤ f.fragment.text.endPosition) :
    p.line + f.shift.lines ≤ f.sheet.text.length := by
  have hstart : f.shift.lines = f.frame.opening.endPosition.line :=
    congrArg Position.line f.start_shift
  have hline := Position.line_le_line hp
  have hend := Text.line_endPosition_le_length (f.frame.opening ++ f.fragment.text)
  have hlength := f.length_append_le_length_sheet
  rw [Text.endPosition_append, Position.add_line] at hend
  omega

/-- **Which positions can be entered.** All of those whose sum stays in bounds. -/
theorem enter_eq (hsize : f.sheet.text.length < Coordinate.bound) (p : Position) :
    f.shift.enter p =
      if f.shift.Overflows p then .error .add
      else .ok (f.shift.start + min p f.shift.contentEnd) := by
  have hlines := f.line_add_lines_le_length (min_le_right p f.fragment.text.endPosition)
  by_cases hout : f.shift.Overflows p
  · rw [if_pos hout]
    obtain ⟨hline, hbound⟩ := hout
    rw [Shift.enter, Position.earlier_eq_min]
    simp only [hline, if_true, Coordinate.add, if_neg (not_lt.mpr hbound)]
    rfl
  · rw [if_neg hout]
    refine Shift.enter_eq_ok_iff.mpr ⟨rfl, fun hline => ?_, fun _ => ?_⟩
    · by_contra hbound
      exact hout ⟨hline, not_lt.mp hbound⟩
    · exact lt_of_le_of_lt hlines hsize

/-- Several positions are entered one by one, and one failure is a failure of all. -/
theorem mapM_enter (hsize : f.sheet.text.length < Coordinate.bound) (ps : List Position) :
    ps.mapM f.shift.enter =
      if ∃ p ∈ ps, f.shift.Overflows p then .error .add
      else .ok (ps.map fun p => f.shift.start + min p f.shift.contentEnd) := by
  induction ps with
  | nil => simp [pure, Except.pure]
  | cons p rest ih =>
    rw [List.mapM_cons, f.enter_eq hsize, ih]
    by_cases hp : f.shift.Overflows p
    · simp [hp, bind, Except.bind]
    · by_cases hrest : ∃ p ∈ rest, f.shift.Overflows p
      · simp only [hp, hrest, List.mem_cons, exists_eq_or_imp, or_true, if_true, if_false, bind,
          Except.bind]
      · simp only [hp, hrest, List.mem_cons, exists_eq_or_imp, or_false, if_false, bind,
          Except.bind, pure, Except.pure, List.map_cons]

/-- The positions of a fragment are positions of the stylesheet, so that they stay in bounds. -/
theorem not_overflows_of_isPosition (hsize : f.sheet.text.length < Coordinate.bound)
    {p : Position} (hp : f.fragment.text.IsPosition p) : ¬ f.shift.Overflows p := by
  rintro ⟨hline, hbound⟩
  rw [contentEnd_shift, min_eq_left hp.le_endPosition] at hline hbound
  obtain ⟨u, v, huv, rfl⟩ := Text.isPosition_iff.mp hp
  have hcolumns : f.shift.columns = f.frame.opening.endPosition.character :=
    congrArg Position.character f.start_shift
  have hend := Text.character_endPosition_le_length (f.frame.opening ++ u)
  have hlength := f.length_append_le_length_sheet
  rw [Text.endPosition_append, Position.add_character, if_pos hline] at hend
  rw [← huv, List.length_append, List.length_append] at hlength
  rw [List.length_append] at hend
  omega

/-- The positions of a fragment are entered as they are. -/
theorem mapM_enter_of_isPosition (hsize : f.sheet.text.length < Coordinate.bound)
    {ps : List Position} (hps : ∀ p ∈ ps, f.fragment.text.IsPosition p) :
    ps.mapM f.shift.enter = .ok (ps.map fun p => f.shift.start + p) := by
  have hfits : ¬ ∃ p ∈ ps, f.shift.Overflows p := by
    rintro ⟨p, hp, hout⟩
    exact f.not_overflows_of_isPosition hsize (hps p hp) hout
  have hmoved : (ps.map fun p => f.shift.start + min p f.shift.contentEnd) =
      ps.map fun p => f.shift.start + p := by
    refine List.map_congr_left fun p hp => ?_
    rw [contentEnd_shift, min_eq_left (hps p hp).le_endPosition]
  rw [f.mapM_enter hsize, if_neg hfits, hmoved]

/-- An opening that ends with a line feed puts no columns before the fragment. -/
theorem columns_of_newline {u : Text} (h : f.frame.opening = u ++ ['\n']) :
    f.shift.columns = 0 := by
  show (Text.takeEndWhile f.frame.opening (· != '\n')).length = 0
  rw [h]
  simp [Text.takeEndWhile]

/-- Without columns before the fragment, all coordinates stay in bounds. -/
theorem not_overflows_of_newline (hsize : f.sheet.text.length < Coordinate.bound) {u : Text}
    (h : f.frame.opening = u ++ ['\n']) {p : Position} (hp : p.character < Coordinate.bound) :
    ¬ f.shift.Overflows p := by
  rintro ⟨-, hbound⟩
  rw [f.columns_of_newline h, contentEnd_shift] at hbound
  rcases min_choice p f.fragment.text.endPosition with hmin | hmin
  · rw [hmin] at hbound
    omega
  · have hend := f.fragment.text.character_endPosition_le_length
    have hlength := f.length_append_le_length_sheet
    rw [List.length_append] at hlength
    rw [hmin] at hbound
    omega

/-- The offset of a position that was entered. -/
theorem offsetAt_start_add {p : Position} (hp : p ≤ f.fragment.text.endPosition) :
    f.sheet.text.offsetAt (f.shift.start + p) =
      f.frame.opening.byteSize + f.fragment.text.offsetAt p := by
  rw [start_shift, text_sheet, Text.offsetAt_append_add, Text.offsetAt_append_of_le _ hp]

/-- A position of the fragment, in the stylesheet. -/
theorem positionAt_of_isPosition {p : Position} (hp : f.fragment.text.IsPosition p) :
    f.sheet.text.positionAt (f.frame.opening.byteSize + f.fragment.text.offsetAt p) =
      f.shift.start + p := by
  have hoffset := f.fragment.text.offsetAt_le_byteSize p
  rw [text_sheet, Text.positionAt_append_add, Text.positionAt_append_of_le _ hoffset,
    Text.positionAt_offsetAt hp, start_shift]

end Framed

end CssFragments
