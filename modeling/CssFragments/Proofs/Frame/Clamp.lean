import CssFragments.Proofs.Frame.Shift
import Mathlib.Order.MinMax

/-! # Cutting ranges to the fragment

A position outside a fragment stands for the end of the fragment that is nearest to it, and a range
is cut by moving both its ends there.

* `Shift.start_add_clampStart`: the nearest position, by the order of positions alone.
* `Shift.clampStart_le_clampStart`: the order of positions is kept.
* `Shift.cut`, `Shift.clampRange?_eq`: ranges that do not end in the opening are cut.
* `Shift.cut_within_cut`, `Shift.cut_within_content`: cutting keeps ranges in each other, and puts
  them into the fragment. -/

namespace CssFragments

namespace Shift

/-! ## Positions -/

/-- **The nearest position of the fragment.** In the stylesheet it is the position itself, moved
between the two ends of the fragment. -/
theorem start_add_clampStart (s : Shift) (p : Position) :
    s.start + s.clampStart p = max s.start (min p (s.start + s.contentEnd)) := by
  rw [clampStart]
  cases hp : s.locate p with
  | before =>
    have hlt := locate_eq_before_iff.mp hp
    rw [Position.add_origin, max_eq_left (le_trans (min_le_left _ _) (le_of_lt hlt))]
  | inside q =>
    obtain ⟨rfl, hq⟩ := locate_eq_inside_iff.mp hp
    have hle := (Position.add_le_add_iff_left s.start q s.contentEnd).mpr hq
    rw [min_eq_left hle, max_eq_right (Position.le_add _ _)]
  | after =>
    have hlt := locate_eq_after_iff.mp hp
    rw [min_eq_right (le_of_lt hlt), max_eq_right (Position.le_add _ _)]

/-- The nearest position is in the fragment. -/
theorem clampStart_le_contentEnd (s : Shift) (p : Position) : s.clampStart p ≤ s.contentEnd := by
  rw [← Position.add_le_add_iff_left s.start, start_add_clampStart]
  exact max_le (Position.le_add _ _) (min_le_right _ _)

/-- The nearest positions stand in the order of the positions themselves. -/
theorem clampStart_le_clampStart (s : Shift) {p q : Position} (h : p ≤ q) :
    s.clampStart p ≤ s.clampStart q := by
  rw [← Position.add_le_add_iff_left s.start, start_add_clampStart, start_add_clampStart]
  exact max_le_max le_rfl (min_le_min h le_rfl)

/-- In the fragment, a position is its own nearest one. -/
theorem clampStart_of_leave? {s : Shift} {p q : Position} (h : s.leave? p = some q) :
    s.clampStart p = q := by
  rw [clampStart, locate_eq_inside_iff.mpr (leave?_eq_some_iff.mp h)]

/-! ## Ranges -/

/-- The part of a range that is in the fragment. -/
def cut (s : Shift) (r : Range) : Range := ⟨s.clampStart r.start, s.clampStart r.stop⟩

/-- A range that is in another one is in it after both were cut. -/
theorem cut_within_cut (s : Shift) {r r' : Range} (h : r.Within r') :
    (s.cut r).Within (s.cut r') :=
  ⟨s.clampStart_le_clampStart h.start_le, s.clampStart_le_clampStart h.start_le_stop,
    s.clampStart_le_clampStart h.stop_le⟩

/-- What was cut is in the fragment, and it does not end before it starts if it did not do so
before. -/
theorem cut_within_content (s : Shift) {r : Range} (h : r.start ≤ r.stop) :
    (s.cut r).Within ⟨.origin, s.contentEnd⟩ :=
  ⟨Position.origin_le _, s.clampStart_le_clampStart h, s.clampStart_le_contentEnd _⟩

/-- A range with both ends in the fragment is moved as a whole. -/
theorem cut_of_leaveRange? {s : Shift} {r r' : Range} (h : s.leaveRange? r = some r') :
    s.cut r = r' := by
  obtain ⟨hstart, hstop⟩ := leaveRange?_eq_some_iff.mp h
  rw [cut, clampStart_of_leave? hstart, clampStart_of_leave? hstop]

/-- Only ranges that end in the opening are left out; all others are cut. -/
theorem clampRange?_eq (s : Shift) (r : Range) :
    s.clampRange? r = if s.locate r.stop = .before then none else some (s.cut r) := by
  rw [clampRange?, clampStop?, cut]
  cases hstop : s.locate r.stop <;> simp [clampStart, hstop]

end Shift

end CssFragments
