import CssFragments.Proofs.Text.Offset
import Mathlib.Data.List.TakeWhile

/-! # The positions of a text

A position is one of a text if the text has its line, and if that line is long enough. These are
the ends of the texts with which it begins, and they are found again from their offsets. All other
positions are moved back to one of them, on their own line as long as there is one.

* `Text.IsPosition`: the positions of a text, by its lines.
* `Text.isPosition_iff`: the same, by the texts with which it begins.
* `Text.positionAt_offsetAt`: from a position to its offset and back.
* `Text.line_endPosition_le_length`, `Text.character_endPosition_le_length`: short texts have small
  coordinates.
* `Text.endPosition_upTo_le`, `Text.line_endPosition_upTo`: where a position is moved to.
* `Text.positionAt_offsetAt_eq`, `Text.isPosition_iff_character_le`: that this is the position of
  its offset, and when it is the position itself. -/

namespace CssFragments

namespace Text

/-! ## Lines -/

/-- The text has the line of the position, and the line is long enough. -/
def IsPosition (t : Text) (p : Position) : Prop :=
  ∃ line, (t.splitOn '\n')[p.line]? = some line ∧ p.character ≤ line.length

instance (t : Text) (p : Position) : Decidable (t.IsPosition p) :=
  decidable_of_iff (((t.splitOn '\n')[p.line]?.any fun line => p.character ≤ line.length) = true)
    (by simp [IsPosition, Option.any_eq_true])

theorem isPosition_nil {p : Position} : IsPosition [] p ↔ p = .origin := by
  obtain ⟨l, n⟩ := p
  cases l <;> simp [IsPosition, Position.origin]

/-- A line feed puts an empty line before all others. -/
theorem isPosition_newline {t : Text} {p : Position} :
    IsPosition ('\n' :: t) p ↔
      p = .origin ∨ ∃ q, t.IsPosition q ∧ p = Position.advance .origin '\n' + q := by
  have hlines : List.splitOn '\n' ('\n' :: t) = [] :: t.splitOn '\n' := by
    simp [List.splitOn, List.splitOnP_cons_eq_if_modifyHead]
  obtain ⟨l, n⟩ := p
  simp only [IsPosition, Position.advance_newline_add, hlines]
  cases l with
  | zero => simp [Position.origin]
  | succ l =>
    constructor
    · intro h
      exact .inr ⟨⟨l, n⟩, by simpa using h, rfl⟩
    · rintro (h | ⟨⟨l', n'⟩, hq, h⟩)
      · simp [Position.origin] at h
      · obtain ⟨rfl, rfl⟩ : l = l' ∧ n = n' := by simpa using h
        simpa using hq

/-- Any other character makes the first line longer. -/
theorem isPosition_cons_of_ne {c : Char} (hc : c ≠ '\n') {t : Text} {p : Position} :
    IsPosition (c :: t) p ↔
      p = .origin ∨ ∃ q, t.IsPosition q ∧ p = Position.advance .origin c + q := by
  obtain ⟨first, rest, ht⟩ := List.exists_cons_of_ne_nil (t.splitOn_ne_nil '\n')
  have hlines : List.splitOn '\n' (c :: t) = (c :: first) :: rest := by
    rw [List.splitOn] at ht
    simp [List.splitOn, List.splitOnP_cons_eq_if_modifyHead, hc, ht]
  obtain ⟨l, n⟩ := p
  simp only [IsPosition, Position.advance_add_of_ne hc, hlines, ht]
  constructor
  · rintro ⟨line, hline, hn⟩
    cases l with
    | zero =>
      obtain rfl : c :: first = line := by simpa using hline
      cases n with
      | zero => exact .inl rfl
      | succ n => exact .inr ⟨⟨0, n⟩, ⟨first, by simp, by simpa using hn⟩, by simp⟩
    | succ l => exact .inr ⟨⟨l + 1, n⟩, ⟨line, by simpa using hline, hn⟩, by simp⟩
  · rintro (h | ⟨⟨l', n'⟩, ⟨line, hline, hn⟩, h⟩)
    · obtain ⟨rfl, rfl⟩ := Position.mk.inj h
      simp
    · obtain ⟨rfl, rfl⟩ := Position.mk.inj h
      cases l with
      | zero =>
        obtain rfl : first = line := by simpa using hline
        simpa using hn
      | succ l => exact ⟨line, by simpa using hline, by simpa using hn⟩

/-- The positions of a text are its start and those behind its first character. -/
theorem isPosition_cons {c : Char} {t : Text} {p : Position} :
    IsPosition (c :: t) p ↔
      p = .origin ∨ ∃ q, t.IsPosition q ∧ p = Position.advance .origin c + q := by
  by_cases hc : c = '\n'
  · subst hc
    exact isPosition_newline
  · exact isPosition_cons_of_ne hc

/-- **The positions of a text** are the ends of the texts with which it begins. -/
theorem isPosition_iff {t : Text} {p : Position} :
    t.IsPosition p ↔ ∃ u v : Text, u ++ v = t ∧ u.endPosition = p := by
  induction t generalizing p with
  | nil =>
    rw [isPosition_nil]
    constructor
    · rintro rfl
      exact ⟨[], [], rfl, rfl⟩
    · rintro ⟨u, v, huv, rfl⟩
      rw [(List.append_eq_nil_iff.mp huv).1, endPosition_nil]
  | cons c t ih =>
    rw [isPosition_cons]
    constructor
    · rintro (rfl | ⟨q, hq, rfl⟩)
      · exact ⟨[], c :: t, rfl, rfl⟩
      · obtain ⟨u, v, rfl, rfl⟩ := ih.mp hq
        exact ⟨c :: u, v, rfl, endPosition_cons c u⟩
    · rintro ⟨u, v, huv, rfl⟩
      cases u with
      | nil => exact .inl rfl
      | cons d u =>
        obtain ⟨rfl, rfl⟩ := List.cons_eq_cons.mp huv
        exact .inr ⟨endPosition u, ih.mpr ⟨u, v, rfl, rfl⟩, endPosition_cons d u⟩

/-- The end of a text is not before any of its positions. -/
theorem IsPosition.le_endPosition {t : Text} {p : Position} (h : t.IsPosition p) :
    p ≤ t.endPosition := by
  obtain ⟨u, v, rfl, rfl⟩ := isPosition_iff.mp h
  exact endPosition_le_of_isPrefix (List.prefix_append u v)

/-- The text before the end of a text with which another one begins is that text. -/
theorem upTo_append_endPosition (u v : Text) : (u ++ v).upTo u.endPosition = u := by
  rw [upTo, indexAt_append_of_le v le_rfl, indexAt_of_endPosition_le le_rfl, List.take_left]

/-- **There and back.** A position of a text is that of its offset. -/
theorem positionAt_offsetAt {t : Text} {p : Position} (h : t.IsPosition p) :
    t.positionAt (t.offsetAt p) = p := by
  obtain ⟨u, v, rfl, rfl⟩ := isPosition_iff.mp h
  rw [offsetAt, upTo_append_endPosition, positionAt, charsBefore_append_byteSize]

/-- A boundary is the offset of its position. -/
theorem offsetAt_positionAt {t : Text} {b : Nat} (h : t.IsBoundary b) :
    t.offsetAt (t.positionAt b) = b := by
  obtain ⟨u, v, rfl, rfl⟩ := h
  rw [positionAt, charsBefore_append_byteSize, offsetAt, upTo_append_endPosition]

theorem upTo_append_drop (t : Text) (p : Position) : t.upTo p ++ t.drop (t.indexAt p) = t :=
  List.take_append_drop _ _

/-- All offsets of positions lie between characters. -/
theorem isBoundary_offsetAt (t : Text) (p : Position) : t.IsBoundary (t.offsetAt p) :=
  ⟨t.upTo p, t.drop (t.indexAt p), t.upTo_append_drop p, rfl⟩

/-- The end of a text is at the offset behind all its bytes. -/
theorem positionAt_byteSize (t : Text) : t.positionAt t.byteSize = t.endPosition := by
  have h := charsBefore_append_byteSize t []
  rw [List.append_nil] at h
  rw [positionAt, h]

/-! ## Lengths -/

/-- A text has no more line feeds than characters. -/
theorem line_endPosition_le_length (t : Text) : t.endPosition.line ≤ t.length := by
  rw [endPosition_eq]
  exact List.count_le_length

/-- The last line of a text is not longer than the text. -/
theorem character_endPosition_le_length (t : Text) : t.endPosition.character ≤ t.length := by
  have h := (List.takeWhile_prefix (· != '\n') (l := t.reverse)).length_le
  rw [List.length_reverse] at h
  rw [endPosition_eq]
  exact h

/-- Characters that are no line feeds are counted on the last line. -/
theorem endPosition_append_of_notMem (s : Text) {w : Text} (h : '\n' ∉ w) :
    (s ++ w).endPosition = ⟨s.endPosition.line, s.endPosition.character + w.length⟩ := by
  have hall : ∀ c ∈ w.reverse, (c != '\n') = true := by
    intro c hc
    rw [bne_iff_ne]
    rintro rfl
    exact h (List.mem_reverse.mp hc)
  have hw : w.endPosition = ⟨0, w.length⟩ := by
    rw [endPosition_eq, List.count_eq_zero.mpr h, List.takeWhile_eq_self_iff.mpr hall,
      List.length_reverse]
  rw [endPosition_append, hw, Position.add_def, if_pos rfl]

theorem offsetAt_le_byteSize (t : Text) (p : Position) : t.offsetAt p ≤ t.byteSize := by
  have h := congrArg byteSize (t.upTo_append_drop p)
  rw [byteSize_append] at h
  rw [offsetAt]
  omega

/-- Positions that stand in the order of their offsets have as many characters before them. -/
theorem indexAt_le_of_offsetAt_le {t : Text} {p q : Position} (h : t.offsetAt p ≤ t.offsetAt q) :
    t.indexAt p ≤ t.indexAt q := by
  have hprefix : t.upTo p <+: t.upTo q :=
    isPrefix_of_byteSize_le (List.take_prefix _ _) (List.take_prefix _ _) h
  have hlength := hprefix.length_le
  rwa [upTo, upTo, List.length_take_of_le (indexAt_le_length t p),
    List.length_take_of_le (indexAt_le_length t q)] at hlength

/-! ## Positions that are moved back -/

theorem upTo_cons_add (c : Char) (t : Text) (p : Position) :
    upTo (c :: t) (Position.advance .origin c + p) = c :: t.upTo p := by
  rw [upTo, indexAt_cons_add, List.take_succ_cons]
  rfl

theorem upTo_cons_of_lt {c : Char} {p : Position} (t : Text)
    (h : p < Position.advance .origin c) : upTo (c :: t) p = [] := by
  rw [upTo, indexAt_cons_of_lt t h, List.take_zero]

/-- A position is moved back, never on. -/
theorem endPosition_upTo_le (t : Text) (p : Position) : (t.upTo p).endPosition ≤ p := by
  induction t generalizing p with
  | nil => exact Position.origin_le p
  | cons c t ih =>
    rcases lt_advance_or_eq_add c p with hlt | ⟨q, rfl⟩
    · rw [upTo_cons_of_lt t hlt]
      exact Position.origin_le p
    · rw [upTo_cons_add, endPosition_cons, Position.add_le_add_iff_left]
      exact ih q

/-- A position on a line of the text stays on that line. -/
theorem line_endPosition_upTo {t : Text} {p : Position} (h : p.line ≤ t.endPosition.line) :
    (t.upTo p).endPosition.line = p.line := by
  induction t generalizing p with
  | nil => exact (Nat.le_zero.mp h).symm
  | cons c t ih =>
    rcases lt_advance_or_eq_add c p with hlt | ⟨q, rfl⟩
    · -- before the end of the first character there is only the first line
      rw [upTo_cons_of_lt t hlt]
      rw [Position.advance] at hlt
      split at hlt <;>
        · simp only [Position.lt_def, Position.origin] at hlt
          simp only [endPosition_nil, Position.origin]
          omega
    · rw [endPosition_cons, Position.add_line, Position.add_line, Nat.add_le_add_iff_left] at h
      rw [upTo_cons_add, endPosition_cons, Position.add_line, Position.add_line, ih h]

/-- What a position is moved back to is a position of the text. -/
theorem isPosition_endPosition_upTo (t : Text) (p : Position) :
    t.IsPosition (t.upTo p).endPosition :=
  isPosition_iff.mpr ⟨_, _, t.upTo_append_drop p, rfl⟩

/-- The same text is before a position and before the one to which it is moved back. -/
theorem upTo_endPosition_upTo (t : Text) (p : Position) :
    t.upTo (t.upTo p).endPosition = t.upTo p := by
  have h := upTo_append_endPosition (t.upTo p) (t.drop (t.indexAt p))
  rwa [upTo_append_drop] at h

/-- The offset of a position belongs to the position to which it is moved back. -/
theorem positionAt_offsetAt_eq (t : Text) (p : Position) :
    t.positionAt (t.offsetAt p) = (t.upTo p).endPosition := by
  have h := positionAt_offsetAt (t.isPosition_endPosition_upTo p)
  rwa [offsetAt, upTo_endPosition_upTo] at h

/-- On a line of the text, the positions of the text are those that are not moved back along it. -/
theorem isPosition_iff_character_le {t : Text} {p : Position}
    (hline : p.line ≤ t.endPosition.line) :
    t.IsPosition p ↔ p.character ≤ (t.upTo p).endPosition.character := by
  constructor
  · intro hp
    rw [← positionAt_offsetAt_eq, positionAt_offsetAt hp]
  · intro hle
    have hpline := line_endPosition_upTo hline
    have hback : p = (t.upTo p).endPosition :=
      le_antisymm (Position.le_def.mpr (.inr ⟨hpline.symm, hle⟩)) (t.endPosition_upTo_le p)
    rw [hback]
    exact t.isPosition_endPosition_upTo p

end Text

end CssFragments
