import CssFragments.Frame.Shift
import CssFragments.Proofs.Text.Offset

/-! # Entering and leaving a frame

In the sums of positions, a frame adds the position at which its opening ends. What is done with
lines and columns case by case is said here once for all positions.

* `Shift.start`: where the fragment starts in the stylesheet; `Framed.start_shift` is its value.
* `Shift.enter_eq_ok_iff`: entering adds `start`, after a position behind the fragment was moved to
  its end.
* `Shift.locate_eq_before_iff`, `Shift.locate_eq_inside_iff`, `Shift.locate_eq_after_iff`: the three
  places of a position, by its order relative to the ends of the fragment.
* `Shift.leave?_eq_some_iff`: leaving takes `start` away. -/

namespace CssFragments

namespace Frame

/-- The two numbers that are read off an opening are the coordinates of its end. -/
theorem endPosition_opening (f : Frame) : f.opening.endPosition = ⟨f.lines, f.columns⟩ := by
  rw [Text.endPosition_eq, lines, columns, Text.takeEndWhile, List.length_reverse]

end Frame

namespace Shift

/-- Where the fragment starts in the stylesheet. -/
def start (s : Shift) : Position := ⟨s.lines, s.columns⟩

/-! ## Entering -/

/-- **Entering is addition.** A position behind the fragment is first moved to its end. The sum
fails if the one coordinate that it changes leaves its bounds. -/
theorem enter_eq_ok_iff {s : Shift} {p q : Position} :
    s.enter p = .ok q ↔
      q = s.start + min p s.contentEnd ∧
        ((min p s.contentEnd).line = 0 →
          (min p s.contentEnd).character + s.columns < Coordinate.bound) ∧
        ((min p s.contentEnd).line ≠ 0 →
          (min p s.contentEnd).line + s.lines < Coordinate.bound) := by
  rw [enter, Position.earlier_eq_min]
  generalize min p s.contentEnd = m
  by_cases hm : m.line = 0
  · by_cases hb : m.character + s.columns < Coordinate.bound <;>
      simp [hm, hb, Coordinate.add, Position.add_def, start, Nat.add_comm s.columns, bind,
        Except.bind, pure, Except.pure, eq_comm]
  · by_cases hb : m.line + s.lines < Coordinate.bound <;>
      simp [hm, hb, Coordinate.add, Position.add_def, start, Nat.add_comm s.lines, bind,
        Except.bind, pure, Except.pure, eq_comm]

/-- What is entered is found behind the start of the fragment. -/
theorem eq_add_of_enter {s : Shift} {p q : Position} (h : s.enter p = .ok q) :
    q = s.start + min p s.contentEnd := (enter_eq_ok_iff.mp h).1

/-! ## Leaving -/

/-- All before the start of the fragment is in the opening. -/
theorem locate_of_lt_start {s : Shift} {p : Position} (h : p < s.start) : s.locate p = .before := by
  simp only [Position.lt_def, start] at h
  rw [locate]
  by_cases hline : p.line < s.lines
  · rw [if_pos hline]
  · rw [if_neg hline, if_pos (by omega), if_pos (by omega)]

/-- From the start of the fragment on, only the order relative to its end counts. -/
theorem locate_start_add (s : Shift) (q : Position) : s.locate (s.start + q) = s.place q := by
  have hline : (s.start + q).line = s.lines + q.line := Position.add_line s.start q
  rw [locate, hline, if_neg (by omega)]
  by_cases hq : q.line = 0
  · have hchar : (s.start + q).character = s.columns + q.character := by
      rw [Position.add_character, if_pos hq]
      rfl
    have hpos : (⟨0, q.character⟩ : Position) = q := by rw [← hq]
    rw [hchar, if_pos (by omega), if_neg (by omega), Nat.add_sub_cancel_left, hpos]
  · have hchar : (s.start + q).character = q.character := by
      rw [Position.add_character, if_neg hq]
    rw [hchar, if_neg (by omega), Nat.add_sub_cancel_left]

/-- A position is in the opening, or it is found behind the start of the fragment. -/
theorem lt_start_or_eq_add (s : Shift) (p : Position) : p < s.start ∨ ∃ q, p = s.start + q := by
  rcases lt_or_ge p s.start with hlt | hge
  · exact .inl hlt
  · exact .inr (Position.exists_eq_add_of_le hge)

theorem locate_eq_before_iff {s : Shift} {p : Position} : s.locate p = .before ↔ p < s.start := by
  refine ⟨fun h => ?_, locate_of_lt_start⟩
  rcases s.lt_start_or_eq_add p with hlt | ⟨q, rfl⟩
  · exact hlt
  · rw [locate_start_add, place] at h
    split at h <;> simp at h

theorem locate_eq_inside_iff {s : Shift} {p q : Position} :
    s.locate p = .inside q ↔ p = s.start + q ∧ q ≤ s.contentEnd := by
  constructor
  · intro h
    rcases s.lt_start_or_eq_add p with hlt | ⟨r, rfl⟩
    · rw [locate_of_lt_start hlt] at h
      simp at h
    · rw [locate_start_add, place] at h
      split at h
      · simp at h
      · next hle =>
        obtain rfl := Placement.inside.inj h
        exact ⟨rfl, not_lt.mp hle⟩
  · rintro ⟨rfl, hle⟩
    rw [locate_start_add, place, if_neg (not_lt.mpr hle)]

theorem locate_eq_after_iff {s : Shift} {p : Position} :
    s.locate p = .after ↔ s.start + s.contentEnd < p := by
  constructor
  · intro h
    rcases s.lt_start_or_eq_add p with hlt | ⟨q, rfl⟩
    · rw [locate_of_lt_start hlt] at h
      simp at h
    · rw [locate_start_add, place] at h
      split at h
      · next hlt => exact (Position.add_lt_add_iff_left _ _ _).mpr hlt
      · simp at h
  · intro h
    obtain ⟨q, rfl⟩ := Position.exists_eq_add_of_le (le_trans (Position.le_add _ _) (le_of_lt h))
    rw [locate_start_add, place, if_pos ((Position.add_lt_add_iff_left _ _ _).mp h)]

/-- **Leaving is subtraction.** It succeeds between the two ends of the fragment. -/
theorem leave?_eq_some_iff {s : Shift} {p q : Position} :
    s.leave? p = some q ↔ p = s.start + q ∧ q ≤ s.contentEnd := by
  rw [← locate_eq_inside_iff, leave?]
  cases s.locate p <;> simp

/-- A range leaves with both its ends. -/
theorem leaveRange?_eq_some_iff {s : Shift} {r r' : Range} :
    s.leaveRange? r = some r' ↔
      s.leave? r.start = some r'.start ∧ s.leave? r.stop = some r'.stop := by
  obtain ⟨start', stop'⟩ := r'
  cases hstart : s.leave? r.start <;> cases hstop : s.leave? r.stop <;>
    simp [leaveRange?, hstart, hstop]

end Shift

namespace Framed

/-- A fragment starts where the opening of its frame ends. -/
@[simp] theorem start_shift (f : Framed) : f.shift.start = f.frame.opening.endPosition :=
  f.frame.endPosition_opening.symm

@[simp] theorem contentEnd_shift (f : Framed) : f.shift.contentEnd = f.fragment.text.endPosition :=
  rfl

theorem text_sheet (f : Framed) :
    f.sheet.text = f.frame.opening ++ (f.fragment.text ++ Frame.closing) :=
  List.append_assoc _ _ _

end Framed

end CssFragments
