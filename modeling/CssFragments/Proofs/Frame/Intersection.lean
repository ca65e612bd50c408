import CssFragments.Proofs.Frame.Diagnostics
import CssFragments.Proofs.Frame.Offset
import CssFragments.Proofs.Text.Lines

/-! # Ranges of offsets, cut to the fragment

An analyzer finds a range by two offsets of the stylesheet. To cut it to the fragment is to
intersect the interval between the offsets with the bytes of the fragment: both are moved by the
size of the opening, and what is then outside of the fragment is moved to the nearest end of it.

Whether a range is left out is decided by its end alone, which is not part of it. A range in the
opening that reaches up to the fragment ends where the fragment starts, so it is not left out, and
nothing remains of it but that place.

* `Framed.clampStart_positionAt`: one end of a range, by its offset.
* `Framed.clampRange?_rangeAt`: cutting is intersection.
* `Framed.diagnostics_opening_iff`: which diagnostics of the opening are left out.
* `Framed.diagnostics_shows_opening`: one that is not. -/

namespace CssFragments

/-- What precedes the fragment stands for its start. -/
theorem Shift.clampStart_of_le_start {s : Shift} {p : Position} (h : p ≤ s.start) :
    s.clampStart p = .origin := by
  have hstart : s.leave? s.start = some .origin :=
    leave?_eq_some_iff.mpr ⟨(Position.add_origin _).symm, Position.origin_le _⟩
  have hle := s.clampStart_le_clampStart h
  rw [clampStart_of_leave? hstart] at hle
  exact le_antisymm hle (Position.origin_le _)

namespace Framed

/-! ## Cutting is intersection -/

/-- **One end of a range.** The nearest position of the fragment belongs to the nearest offset of
it; offsets in the opening are nearest to `0`. -/
theorem clampStart_positionAt (f : Framed) (b : Nat) :
    f.shift.clampStart (f.sheet.text.positionAt b) =
      f.fragment.text.positionAt
        (min (b - f.frame.opening.byteSize) f.fragment.text.byteSize) := by
  rcases Nat.le_total b f.frame.opening.byteSize with hle | hge
  · have hposition : f.sheet.text.positionAt b ≤ f.shift.start := by
      rw [start_shift, text_sheet, Text.positionAt_append_of_le _ hle]
      exact Text.positionAt_le_endPosition _ _
    rw [Shift.clampStart_of_le_start hposition, Nat.sub_eq_zero_of_le hle, Nat.zero_min,
      Text.positionAt_zero]
  · obtain ⟨k, rfl⟩ := Nat.exists_eq_add_of_le hge
    rw [Nat.add_sub_cancel_left, Shift.clampStart]
    -- behind the opening, the offset is one of the fragment or one of the closing
    rcases Nat.lt_or_ge f.fragment.text.byteSize k with hgt | hle
    · rw [f.locate_positionAt_of_gt hgt, Nat.min_eq_right (Nat.le_of_lt hgt),
        Text.positionAt_byteSize]
      rfl
    · rw [f.locate_positionAt_add hle, Nat.min_eq_left hle]

/-- Offsets that are not in the opening have positions that are not there. -/
theorem locate_positionAt_ne_before (f : Framed) {b : Nat}
    (hle : f.frame.opening.byteSize ≤ b) :
    f.shift.locate (f.sheet.text.positionAt b) ≠ .before := by
  obtain ⟨k, rfl⟩ := Nat.exists_eq_add_of_le hle
  rcases Nat.lt_or_ge f.fragment.text.byteSize k with hgt | hle
  · simp [f.locate_positionAt_of_gt hgt]
  · simp [f.locate_positionAt_add hle]

/-- Both ends of a range, by their offsets. -/
theorem cut_rangeAt (f : Framed) (start stop : Nat) :
    f.shift.cut (f.sheet.text.rangeAt start stop) =
      f.fragment.text.rangeAt
        (min (start - f.frame.opening.byteSize) f.fragment.text.byteSize)
        (min (stop - f.frame.opening.byteSize) f.fragment.text.byteSize) := by
  rw [Shift.cut, Text.rangeAt, f.clampStart_positionAt, f.clampStart_positionAt]
  rfl

/-- **Cutting is intersection.** A range that does not end in the opening is cut to the range of
the same two offsets in the fragment, each less the size of the opening, where one before the
fragment is taken for `0` and one behind it for its size. The result does not end before it starts,
it is in the fragment, and it is the range that leaves, if there is one that does. -/
theorem clampRange?_rangeAt (f : Framed) {start stop : Nat} (hle : start ≤ stop)
    (hstop : f.frame.opening.byteSize ≤ stop) :
    let t := f.fragment.text
    let r := t.rangeAt (min (start - f.frame.opening.byteSize) t.byteSize)
      (min (stop - f.frame.opening.byteSize) t.byteSize)
    f.shift.clampRange? (f.sheet.text.rangeAt start stop) = some r ∧
      r.Within ⟨.origin, f.contentEnd⟩ ∧
      ∀ r', f.shift.leaveRange? (f.sheet.text.rangeAt start stop) = some r' → r' = r := by
  intro t r
  have hcut : f.shift.cut (f.sheet.text.rangeAt start stop) = r := f.cut_rangeAt start stop
  have hplace : f.shift.locate (f.sheet.text.rangeAt start stop).stop ≠ .before :=
    f.locate_positionAt_ne_before hstop
  have horder : (f.sheet.text.rangeAt start stop).start ≤ (f.sheet.text.rangeAt start stop).stop :=
    Text.positionAt_le_positionAt _ hle
  refine ⟨?_, ?_, fun r' hleave => ?_⟩
  · rw [Shift.clampRange?_eq, if_neg hplace, hcut]
  · rw [← hcut]
    exact f.shift.cut_within_content horder
  · rw [← hcut, Shift.cut_of_leaveRange? hleave]

/-- A range from the first byte of the opening to the closing brace is cut to the whole fragment,
and one inside the closing to the end of it. -/
theorem clampRange?_rangeAt_sample :
    sample.shift.clampRange? (sample.sheet.text.rangeAt 0 12) = some ⟨⟨0, 0⟩, ⟨1, 1⟩⟩ ∧
      sample.shift.clampRange? (sample.sheet.text.rangeAt 11 12) = some ⟨⟨1, 1⟩, ⟨1, 1⟩⟩ ∧
      sample.shift.clampRange? (sample.sheet.text.rangeAt 6 8) = some ⟨⟨0, 1⟩, ⟨0, 2⟩⟩ :=
  ⟨(clampRange?_rangeAt sample (by decide) (by decide)).1,
    (clampRange?_rangeAt sample (by decide) (by decide)).1,
    (clampRange?_rangeAt sample (by decide) (by decide)).1⟩

/-! ## Diagnostics of the opening -/

/-- A range that is in the opening is cut to the start of the fragment. -/
theorem cut_rangeAt_of_le (f : Framed) {start stop : Nat} (hstart : start ≤ stop)
    (hstop : stop ≤ f.frame.opening.byteSize) :
    f.shift.cut (f.sheet.text.rangeAt start stop) = .empty .origin := by
  rw [f.cut_rangeAt, Nat.sub_eq_zero_of_le hstop, Nat.sub_eq_zero_of_le (hstart.trans hstop),
    Nat.zero_min, Text.rangeAt, Text.positionAt_zero]
  rfl

/-- **Diagnostics of the opening** are left out exactly if they end before the opening does. One
that reaches up to the fragment is shown among the others, as an empty range at the start of the
fragment. -/
theorem diagnostics_opening_iff (f : Framed) (uri : String) {d : Diagnostic} {start stop : Nat}
    (hrange : d.range = f.sheet.text.rangeAt start stop) (hlt : start < stop)
    (hle : stop ≤ f.frame.opening.byteSize) (hboundary : f.sheet.text.IsBoundary stop)
    (before after : List Diagnostic) :
    (f.shift.diagnostics uri (before ++ d :: after) =
        f.shift.diagnostics uri (before ++ after) ↔ stop < f.frame.opening.byteSize) ∧
      (stop = f.frame.opening.byteSize →
        f.shift.diagnostics uri (before ++ d :: after) =
          f.shift.diagnostics uri before ++
            f.shift.cutDiagnostic uri d :: f.shift.diagnostics uri after ∧
        (f.shift.cutDiagnostic uri d).range = .empty .origin) := by
  have hstop : d.range.stop = f.sheet.text.positionAt stop := congrArg Range.stop hrange
  have hdropped (h : stop < f.frame.opening.byteSize) : f.shift.diagnostic? uri d = none := by
    rw [Shift.diagnostic?_eq, hstop, f.locate_positionAt_of_lt hboundary h]
    simp
  have hshown (h : stop = f.frame.opening.byteSize) :
      f.shift.diagnostic? uri d = some (f.shift.cutDiagnostic uri d) := by
    rw [Shift.diagnostic?_eq, hstop, if_pos (f.locate_positionAt_ne_before (Nat.le_of_eq h.symm))]
  simp only [Shift.diagnostics, List.filterMap_append]
  refine ⟨⟨fun h => ?_, fun h => ?_⟩, fun h => ⟨?_, ?_⟩⟩
  · -- a diagnostic that is shown makes the list longer
    refine lt_of_le_of_ne hle fun heq => ?_
    have hlength := congrArg List.length h
    rw [List.filterMap_cons_some (hshown heq)] at hlength
    simp at hlength
  · rw [List.filterMap_cons_none (hdropped h)]
  · rw [List.filterMap_cons_some (hshown h)]
  · show f.shift.cut d.range = _
    rw [hrange, f.cut_rangeAt_of_le (Nat.le_of_lt hlt) hle]

/-- A frame with a comment and a selector, whose last character is a brace. -/
def selectorSample : Framed where
  frame := ⟨"/* generated */\n:host \x7b".toList⟩
  fragment := ⟨"untitled:1", 1, "color: red".toList⟩

/-- A diagnostic of the selector is left out, and one of the selector and the brace is shown between
two of the fragment. -/
theorem diagnostics_opening_iff_sample :
    let f := selectorSample
    let a : Diagnostic := .sample ⟨⟨1, 7⟩, ⟨1, 12⟩⟩ "name"
    let b : Diagnostic := .sample ⟨⟨1, 14⟩, ⟨1, 17⟩⟩ "value"
    f.shift.diagnostics "untitled:1" [a, .sample (f.sheet.text.rangeAt 16 21) "selector", b] =
        f.shift.diagnostics "untitled:1" [a, b] ∧
      f.shift.diagnostics "untitled:1" [a, .sample (f.sheet.text.rangeAt 16 23) "selector", b] ≠
        f.shift.diagnostics "untitled:1" [a, b] := by
  intro f a b
  refine ⟨((diagnostics_opening_iff f _ rfl (by decide) (by decide) (by decide +kernel) [a]
      [b]).1).mpr (by decide), fun h => ?_⟩
  exact absurd (((diagnostics_opening_iff f _ rfl (by decide) (by decide) (by decide +kernel) [a]
    [b]).1).mp h) (by decide)

/-- **A diagnostic of the selector that is shown.** Its range covers the selector and the brace
behind it, that is, all bytes from the second line of the opening to its end, and none of the
fragment. -/
theorem diagnostics_shows_opening :
    let f := selectorSample
    let d : Diagnostic := .sample (f.sheet.text.rangeAt 16 23) "selector"
    f.sheet.text.IsBoundary 16 ∧ f.sheet.text.IsBoundary 23 ∧ 16 < 23 ∧
      23 ≤ f.frame.opening.byteSize ∧
      f.shift.diagnostics "untitled:1" [d] = [.sample ⟨⟨0, 0⟩, ⟨0, 0⟩⟩ "selector"] :=
  ⟨by decide +kernel, by decide +kernel, by decide, by decide +kernel, rfl⟩

end Framed

end CssFragments
