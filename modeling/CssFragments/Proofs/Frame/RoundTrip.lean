import CssFragments.Proofs.Frame.Enter
import CssFragments.Proofs.Frame.Offset
import CssFragments.Proofs.Frame.Results
import Mathlib.Order.WithBot

/-! # Into a frame and back

Entering and leaving undo each other. Between the ends of the fragment they are the two directions
of an order isomorphism, and a reader of the stylesheet passes its three parts one after the other.

* `Placement.rank`: the order in which a reader comes to the places.
* `Shift.leave?_of_enter`, `Shift.enter_of_leave?`: what was entered leaves again, less what is
  behind the end of the fragment, and what left can be entered again.
* `Shift.le_iff_of_enter`, `Shift.le_iff_of_leave?`: both directions keep the order.
* `Shift.monotone_rank_locate`: no position is in an earlier part than one before it.
* `Framed.enter_leave`: all of this for a fragment in its frame. -/

namespace CssFragments

/-- Where a place comes in the stylesheet: the opening before all else, the closing after all else,
and the places of the fragment between them, in reading order. -/
def Placement.rank : Placement → WithBot (WithTop Position)
  | before => ⊥
  | inside p => ((p : WithTop Position) : WithBot (WithTop Position))
  | after => ⊤

namespace Shift

variable {s : Shift}

/-! ## Positions -/

/-- **What was entered leaves again.** A position behind the end of the fragment comes back as the
end. -/
theorem leave?_of_enter {p q : Position} (h : s.enter p = .ok q) :
    s.leave? q = some (min p s.contentEnd) :=
  leave?_eq_some_iff.mpr ⟨eq_add_of_enter h, min_le_right _ _⟩

/-- Positions are entered in their order, as far as they are not behind the fragment. -/
theorem le_iff_of_enter {p p' q q' : Position} (h : s.enter p = .ok q) (h' : s.enter p' = .ok q') :
    q ≤ q' ↔ min p s.contentEnd ≤ min p' s.contentEnd := by
  rw [eq_add_of_enter h, eq_add_of_enter h', Position.add_le_add_iff_left]

/-- Positions leave in their order. -/
theorem le_iff_of_leave? {p p' q q' : Position} (h : s.leave? q = some p)
    (h' : s.leave? q' = some p') : p ≤ p' ↔ q ≤ q' := by
  obtain ⟨rfl, -⟩ := leave?_eq_some_iff.mp h
  obtain ⟨rfl, -⟩ := leave?_eq_some_iff.mp h'
  rw [Position.add_le_add_iff_left]

/-! ## Places -/

/-- **The parts of the stylesheet follow each other.** -/
theorem monotone_rank_locate (s : Shift) : Monotone fun p => (s.locate p).rank := by
  intro p q hpq
  dsimp only
  cases hp : s.locate p with
  | before => exact bot_le
  | inside a =>
    obtain ⟨rfl, -⟩ := locate_eq_inside_iff.mp hp
    cases hq : s.locate q with
    | before =>
      -- what is not before the fragment is not before it later either
      have hlt := lt_of_le_of_lt hpq (locate_eq_before_iff.mp hq)
      exact absurd (Position.le_add _ _) (not_le.mpr hlt)
    | inside b =>
      obtain ⟨rfl, -⟩ := locate_eq_inside_iff.mp hq
      rw [Position.add_le_add_iff_left] at hpq
      exact WithBot.coe_le_coe.mpr (WithTop.coe_le_coe.mpr hpq)
    | after => exact le_top
  | after =>
    have hlt := lt_of_lt_of_le (locate_eq_after_iff.mp hp) hpq
    rw [locate_eq_after_iff.mpr hlt]

/-! ## Ranges -/

/-- A range is entered by its two ends. -/
theorem enterRange_eq_ok_iff {r r' : Range} :
    s.enterRange r = .ok r' ↔ s.enter r.start = .ok r'.start ∧ s.enter r.stop = .ok r'.stop := by
  obtain ⟨start', stop'⟩ := r'
  rw [enterRange]
  cases hstart : s.enter r.start <;> cases hstop : s.enter r.stop <;>
    simp [bind, Except.bind, pure, Except.pure]

end Shift

namespace Framed

/-- The positions of a fragment are entered and leave as they are. -/
theorem exists_enter_leave (f : Framed) (hsize : f.sheet.text.length < Coordinate.bound)
    {p : Position} (hp : f.fragment.text.IsPosition p) :
    ∃ q, f.shift.enter p = .ok q ∧ f.shift.leave? q = some p := by
  have henter := f.enter_eq hsize p
  rw [if_neg (f.not_overflows_of_isPosition hsize hp)] at henter
  refine ⟨_, henter, ?_⟩
  rw [Shift.leave?_of_enter henter, contentEnd_shift, min_eq_left hp.le_endPosition]

/-- **There and back in order.** What is entered leaves again as itself, or as the end of the
fragment if it was behind that, and so for both ends of a range. What leaves is in the fragment and
is entered again as itself. Both ways keep the order of positions, and along the stylesheet the
opening, the fragment and the closing follow each other. No position of the fragment is too far away
for this, if the stylesheet is not too long. -/
theorem enter_leave (f : Framed) :
    (∀ p q, f.shift.enter p = .ok q → f.shift.leave? q = some (min p f.contentEnd)) ∧
    (∀ p q, f.shift.leave? q = some p →
      p ≤ f.contentEnd ∧ (q.Fits → f.shift.enter p = .ok q)) ∧
    (∀ p p' q q', f.shift.enter p = .ok q → f.shift.enter p' = .ok q' →
      (p ≤ p' → q ≤ q') ∧ (q ≤ q' ↔ min p f.contentEnd ≤ min p' f.contentEnd)) ∧
    (∀ p p' q q', f.shift.leave? q = some p → f.shift.leave? q' = some p' →
      (q ≤ q' ↔ p ≤ p')) ∧
    (Monotone fun q => (f.shift.locate q).rank) ∧
    (∀ r start stop, f.shift.enter r.start = .ok start → f.shift.enter r.stop = .ok stop →
      f.shift.enterRange r = .ok ⟨start, stop⟩ ∧
        f.shift.leaveRange? ⟨start, stop⟩ =
          some ⟨min r.start f.contentEnd, min r.stop f.contentEnd⟩) ∧
    (f.sheet.text.length < Coordinate.bound → ∀ p, f.fragment.text.IsPosition p →
      ∃ q, f.shift.enter p = .ok q ∧ f.shift.leave? q = some p) := by
  refine ⟨fun p q h => Shift.leave?_of_enter h, fun p q h => ?_, fun p p' q q' h h' => ?_,
    fun p p' q q' h h' => (Shift.le_iff_of_leave? h h').symm, f.shift.monotone_rank_locate,
    fun r start stop hstart hstop => ?_, fun hsize p hp => f.exists_enter_leave hsize hp⟩
  · exact ⟨(Shift.leave?_eq_some_iff.mp h).2, Shift.enter_of_leave? h⟩
  · have hiff := Shift.le_iff_of_enter h h'
    exact ⟨fun hle => hiff.mpr (min_le_min hle le_rfl), hiff⟩
  · exact ⟨Shift.enterRange_eq_ok_iff.mpr ⟨hstart, hstop⟩,
      Shift.leaveRange?_eq_some_iff.mpr
        ⟨Shift.leave?_of_enter hstart, Shift.leave?_of_enter hstop⟩⟩

/-- A range from the first line of the fragment to a line that it does not have: its start comes
back as it was, its stop as the end of the fragment, and they stay in order. -/
theorem enter_leave_sample :
    sample.shift.enter ⟨0, 1⟩ = .ok ⟨1, 3⟩ ∧ sample.shift.enter ⟨7, 0⟩ = .ok ⟨2, 1⟩ ∧
      sample.shift.leave? ⟨1, 3⟩ = some (min ⟨0, 1⟩ sample.contentEnd) ∧
      sample.shift.enter ⟨1, 1⟩ = .ok ⟨2, 1⟩ ∧
      (⟨1, 3⟩ : Position) ≤ ⟨2, 1⟩ ∧
      (sample.shift.locate ⟨1, 1⟩).rank ≤ (sample.shift.locate ⟨3, 0⟩).rank ∧
      sample.shift.leaveRange? ⟨⟨1, 3⟩, ⟨2, 1⟩⟩ =
        some ⟨min ⟨0, 1⟩ sample.contentEnd, min ⟨7, 0⟩ sample.contentEnd⟩ ∧
      ∃ q, sample.shift.enter ⟨0, 2⟩ = .ok q ∧ sample.shift.leave? q = some ⟨0, 2⟩ := by
  obtain ⟨hback, hagain, horder, -, hplaces, hrange, hfits⟩ := enter_leave sample
  refine ⟨rfl, rfl, hback _ _ rfl, (hagain ⟨1, 1⟩ ⟨2, 1⟩ rfl).2 ⟨by decide, by decide⟩,
    (horder ⟨0, 1⟩ ⟨7, 0⟩ _ _ rfl rfl).1 (by decide), hplaces (by decide),
    (hrange ⟨⟨0, 1⟩, ⟨7, 0⟩⟩ _ _ rfl rfl).2, hfits (by decide) ⟨0, 2⟩ (by decide)⟩

end Framed

end CssFragments
