import CssFragments.Proofs.Text.Walk
import Mathlib.Order.Bounds.Basic

/-! # Offsets and positions are adjoint

From offsets to positions and back there are two ways, and each of them forgets something: an offset
in the middle of a character has the position behind that character, and a position that the text
does not have stands for the last one before it. They belong together like rounding up and rounding
down. What is not lost on either way follows from one equivalence, since the boundaries of a text
and its positions are all that is left after one round.

* `Text.positionAt_le_iff`: the position of a boundary is not behind `p` if and only if the boundary
  is not behind the offset of `p`.
* `Text.monotone_offsetAt`: later positions have later offsets.
* `Text.isGreatest_positionAt_offsetAt`: a position is moved back to the last one of the text that
  is not behind it.
* `Text.positionAt_offsetAt_eq_self_iff`: only the positions of the text stay where they are.
* `Text.positionAt_lt_bound`: the positions of short texts have small coordinates.
* `Text.positionAt_offsetAt_clamped`: all of this in one statement. -/

namespace CssFragments

namespace Text

/-! ## The adjunction -/

/-- **Offsets and positions are adjoint.** -/
theorem positionAt_le_iff {t : Text} {b : Nat} (hb : t.IsBoundary b) (p : Position) :
    t.positionAt b ≤ p ↔ b ≤ t.offsetAt p := by
  constructor
  · intro hle
    obtain ⟨u, v, rfl, rfl⟩ := hb
    rw [positionAt_append_byteSize] at hle
    -- `p` is a position of what follows the boundary, found behind all that precedes it
    obtain ⟨q, rfl⟩ := Position.exists_eq_add_of_le hle
    rw [offsetAt_append_add]
    exact Nat.le_add_right _ _
  · intro hle
    calc t.positionAt b ≤ t.positionAt (t.offsetAt p) := t.positionAt_le_positionAt hle
      _ = (t.upTo p).endPosition := t.positionAt_offsetAt_eq p
      _ ≤ p := t.endPosition_upTo_le p

/-- A position is not before the one to which it is moved back. -/
theorem positionAt_offsetAt_le (t : Text) (p : Position) : t.positionAt (t.offsetAt p) ≤ p :=
  (positionAt_le_iff (t.isBoundary_offsetAt p) p).mpr le_rfl

/-! ## Order -/

/-- Later positions have later offsets. -/
theorem monotone_offsetAt (t : Text) : Monotone t.offsetAt := by
  intro p q hpq
  have hle : t.positionAt (t.offsetAt p) ≤ q := le_trans (t.positionAt_offsetAt_le p) hpq
  exact (positionAt_le_iff (t.isBoundary_offsetAt p) q).mp hle

/-! ## Where a position is moved to -/

/-- **A position is moved back** to the last one of the text that is not behind it. -/
theorem isGreatest_positionAt_offsetAt (t : Text) (p : Position) :
    IsGreatest {q | t.IsPosition q ∧ q ≤ p} (t.positionAt (t.offsetAt p)) := by
  constructor
  · refine ⟨?_, t.positionAt_offsetAt_le p⟩
    rw [positionAt_offsetAt_eq]
    exact t.isPosition_endPosition_upTo p
  · rintro q ⟨hq, hqp⟩
    -- `q` is the position of its own offset, which is not behind that of `p`
    calc q = t.positionAt (t.offsetAt q) := (positionAt_offsetAt hq).symm
      _ ≤ t.positionAt (t.offsetAt p) := t.positionAt_le_positionAt (t.monotone_offsetAt hqp)

/-- Only the positions of a text stay where they are. -/
theorem positionAt_offsetAt_eq_self_iff {t : Text} {p : Position} :
    t.positionAt (t.offsetAt p) = p ↔ t.IsPosition p := by
  constructor
  · intro h
    rw [← h]
    exact (t.isGreatest_positionAt_offsetAt p).1.1
  · exact positionAt_offsetAt

/-! ## Coordinates -/

/-- The coordinates of a position are counts of characters. -/
theorem positionAt_lt_bound {t : Text} (ht : t.length < Coordinate.bound) (b : Nat) :
    (t.positionAt b).line < Coordinate.bound ∧ (t.positionAt b).character < Coordinate.bound := by
  have hlength := (t.charsBefore_isPrefix b).length_le
  have hline := (t.charsBefore b).line_endPosition_le_length
  have hcharacter := (t.charsBefore b).character_endPosition_le_length
  rw [positionAt]
  omega

/-- **Offsets and positions undo each other up to rounding.** A boundary is the offset of its
position. Each position has a boundary of the text as its offset, and this is the offset of the last
position of the text that is not behind it; so the positions of the text, and no others, come back
as they were. On the bytes of the text, the way to this offset never cuts a character. Both ways
keep the order. In a text whose length is a coordinate, all positions have coordinates for line and
character. -/
theorem positionAt_offsetAt_clamped (t : Text) :
    (∀ b, t.IsBoundary b → t.offsetAt (t.positionAt b) = b) ∧
    (∀ p, t.walkTo? p = some (t.offsetAt p)) ∧
    (∀ p, t.IsBoundary (t.offsetAt p) ∧ t.offsetAt p ≤ t.byteSize ∧
      IsGreatest {q | t.IsPosition q ∧ q ≤ p} (t.positionAt (t.offsetAt p)) ∧
      (t.positionAt (t.offsetAt p) = p ↔ t.IsPosition p)) ∧
    Monotone t.offsetAt ∧ Monotone t.positionAt ∧
    (t.length < Coordinate.bound → ∀ b,
      (t.positionAt b).line < Coordinate.bound ∧
        (t.positionAt b).character < Coordinate.bound) := by
  refine ⟨fun b hb => offsetAt_positionAt hb, t.walkTo?_eq_some, fun p => ?_, t.monotone_offsetAt,
    fun b b' h => t.positionAt_le_positionAt h, fun ht b => positionAt_lt_bound ht b⟩
  exact ⟨t.isBoundary_offsetAt p, t.offsetAt_le_byteSize p, t.isGreatest_positionAt_offsetAt p,
    positionAt_offsetAt_eq_self_iff⟩

/-- A text with a character of two bytes, an empty line and a line feed at its end. A boundary on
the empty line comes back, and positions behind the end of the first line and behind the last line
are moved back to where these end. -/
theorem positionAt_offsetAt_clamped_sample :
    let t : Text := ['a', 'é', '\n', '\n', 'b', '\n']
    (t.IsBoundary 4 ∧ t.offsetAt (t.positionAt 4) = 4) ∧ t.walkTo? ⟨0, 9⟩ = some 3 ∧
      IsGreatest {q | t.IsPosition q ∧ q ≤ ⟨0, 9⟩} ⟨0, 2⟩ ∧
      IsGreatest {q | t.IsPosition q ∧ q ≤ ⟨7, 1⟩} ⟨3, 0⟩ ∧
      (⟨0, 9⟩ : Position) ≤ ⟨7, 1⟩ ∧ t.offsetAt ⟨0, 9⟩ ≤ t.offsetAt ⟨7, 1⟩ ∧
      t.length < Coordinate.bound ∧ (t.positionAt 4).line < Coordinate.bound := by
  intro t
  have hfour : t.IsBoundary 4 := by decide
  have hlength : t.length < Coordinate.bound := by decide
  have hle : (⟨0, 9⟩ : Position) ≤ ⟨7, 1⟩ := by decide
  obtain ⟨hback, hwalk, hclamped, hoffsets, -, hsmall⟩ := positionAt_offsetAt_clamped t
  have hline : t.positionAt (t.offsetAt ⟨0, 9⟩) = ⟨0, 2⟩ := by decide
  have hend : t.positionAt (t.offsetAt ⟨7, 1⟩) = ⟨3, 0⟩ := by decide
  exact ⟨⟨hfour, hback 4 hfour⟩, hwalk ⟨0, 9⟩, hline ▸ (hclamped ⟨0, 9⟩).2.2.1,
    hend ▸ (hclamped ⟨7, 1⟩).2.2.1, hle, hoffsets hle, hlength, (hsmall hlength 4).1⟩

end Text

end CssFragments
