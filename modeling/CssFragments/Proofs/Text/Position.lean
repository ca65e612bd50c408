import CssFragments.Text.Basic
import Mathlib.Data.List.Induction
import Mathlib.Order.Lattice

/-! # The algebra of positions

Reading order is linear, and positions can be added: `p + q` is where a reader stands who was at `p`
and then read a text that ends at `q`. The sum is on another line than `p` only if `q` is.

* `Position.add_lt_add_iff_left`, `Position.exists_eq_add_of_le`: adding `p` maps all positions,
  in order, onto those from `p` on.
* `Range.Within`: one range is in another.
* `Text.endPosition_append`: the end of a text is a homomorphism from texts to positions.
* `Text.endPosition_lt_append`: more text ends later.
* `Text.endPosition_eq`: the end of a text by the number of its line feeds and the length of its
  last line. -/

namespace CssFragments

namespace Position

/-! ## Reading order -/

instance : LinearOrder Position where
  le_refl p := by rw [le_def]; omega
  le_trans p q r hpq hqr := by rw [le_def] at *; omega
  le_antisymm p q hpq hqp := by
    obtain ⟨l, n⟩ := p
    obtain ⟨l', n'⟩ := q
    simp only [le_def, mk.injEq] at *
    omega
  le_total p q := by simp only [le_def]; omega
  lt_iff_le_not_ge p q := by simp only [le_def, lt_def]; omega
  toDecidableLE := inferInstance

/-- The start of a text precedes all positions. -/
theorem origin_le (p : Position) : origin ≤ p := by
  simp only [le_def, origin]
  omega

/-- An earlier position is not on a later line. -/
theorem line_le_line {p q : Position} (h : p ≤ q) : p.line ≤ q.line := by
  rw [le_def] at h
  omega

/-- The earlier of two positions is their minimum. -/
theorem earlier_eq_min (p q : Position) : p.earlier q = min p q := by
  rw [min_def]
  rfl

/-- Reading a character moves on. -/
theorem lt_advance (p : Position) (c : Char) : p < p.advance c := by
  unfold advance
  split <;> simp [lt_def]

/-! ## Sums -/

instance : Add Position where
  add p q :=
    if q.line = 0 then ⟨p.line, p.character + q.character⟩ else ⟨p.line + q.line, q.character⟩

theorem add_def (p q : Position) :
    p + q = if q.line = 0 then ⟨p.line, p.character + q.character⟩
      else ⟨p.line + q.line, q.character⟩ := rfl

/-- Lines add up. -/
@[simp] theorem add_line (p q : Position) : (p + q).line = p.line + q.line := by
  rw [add_def]
  split <;> simp_all

/-- Characters add up only on the first line of the second summand. -/
theorem add_character (p q : Position) :
    (p + q).character = if q.line = 0 then p.character + q.character else q.character := by
  rw [add_def]
  split <;> rfl

@[simp] theorem add_origin (p : Position) : p + origin = p := rfl

@[simp] theorem origin_add (p : Position) : origin + p = p := by
  obtain ⟨l, n⟩ := p
  by_cases h : l = 0 <;> simp [add_def, origin, h]

/-- Where a reader stands does not depend on how the text is divided. -/
protected theorem add_assoc (p q r : Position) : p + q + r = p + (q + r) := by
  by_cases hr : r.line = 0
  · by_cases hq : q.line = 0 <;> simp [add_def, hq, hr, Nat.add_assoc]
  · -- all that is before the last line feed is forgotten
    have hqr : ¬ q.line + r.line = 0 := by omega
    rw [add_def, if_neg hr, add_line, add_def q r, if_neg hr, add_def p, if_neg hqr, Nat.add_assoc]

/-- Reading one more character is the same before and after a sum is taken. -/
theorem add_advance (p q : Position) (c : Char) : (p + q).advance c = p + q.advance c := by
  by_cases hc : c = '\n'
  · subst hc
    rw [advance_newline, advance_newline, add_line, add_def, if_neg (by simp), Nat.add_assoc]
  · rw [advance_of_ne _ hc, advance_of_ne _ hc]
    by_cases hq : q.line = 0 <;> simp [add_def, hq, Nat.add_assoc]

/-- Behind a line feed at the start, everything is one line further down. -/
theorem advance_newline_add (q : Position) :
    advance origin '\n' + q = ⟨q.line + 1, q.character⟩ := by
  rw [advance_newline, add_def]
  split <;> simp_all [origin, Nat.add_comm]

/-- Behind any other character at the start, the first line is one character longer. -/
theorem advance_add_of_ne {c : Char} (hc : c ≠ '\n') (q : Position) :
    advance origin c + q = ⟨q.line, if q.line = 0 then q.character + 1 else q.character⟩ := by
  rw [advance_of_ne _ hc, add_def]
  split <;> simp_all [origin, Nat.add_comm]

/-- Adding on the left keeps the reading order. -/
@[simp] theorem add_lt_add_iff_left (p q r : Position) : p + q < p + r ↔ q < r := by
  simp only [lt_def, add_line, add_character]
  split <;> split <;> omega

/-- Adding on the left keeps the reading order. -/
@[simp] theorem add_le_add_iff_left (p q r : Position) : p + q ≤ p + r ↔ q ≤ r := by
  rw [← not_lt, ← not_lt, add_lt_add_iff_left]

/-- A sum does not precede its first summand. -/
theorem le_add (p q : Position) : p ≤ p + q := by
  rw [← add_origin p, Position.add_assoc, add_le_add_iff_left, origin_add]
  exact origin_le q

/-- Each position from `p` on is a sum with `p`. -/
theorem exists_eq_add_of_le {p q : Position} (h : p ≤ q) : ∃ r, q = p + r := by
  -- on a later line the character stays; on the same line that of `p` is taken away
  rcases le_def.mp h with hlt | ⟨heq, hle⟩
  · have hline : ¬ q.line - p.line = 0 := by omega
    refine ⟨⟨q.line - p.line, q.character⟩, ?_⟩
    rw [add_def, if_neg hline, Nat.add_sub_cancel' (Nat.le_of_lt hlt)]
  · refine ⟨⟨0, q.character - p.character⟩, ?_⟩
    rw [add_def, if_pos rfl, heq, Nat.add_sub_cancel' hle]

end Position

namespace Range

/-! ## Ranges in ranges -/

/-- The range does not end before it starts, and all of it is in the other one. -/
structure Within (r r' : Range) : Prop where
  start_le : r'.start ≤ r.start
  start_le_stop : r.start ≤ r.stop
  stop_le : r.stop ≤ r'.stop

instance (r r' : Range) : Decidable (r.Within r') :=
  decidable_of_iff (r'.start ≤ r.start ∧ r.start ≤ r.stop ∧ r.stop ≤ r'.stop)
    ⟨fun ⟨h, h', h''⟩ => ⟨h, h', h''⟩, fun ⟨h, h', h''⟩ => ⟨h, h', h''⟩⟩

theorem Within.trans {r r' r'' : Range} (h : r.Within r') (h' : r'.Within r'') : r.Within r'' :=
  ⟨le_trans h'.start_le h.start_le, h.start_le_stop, le_trans h.stop_le h'.stop_le⟩

end Range

namespace Text

/-! ## The end of a text -/

/-- Reading from a sum is reading from its second summand, with the first one added. -/
theorem positionFrom_add (p q : Position) (t : Text) :
    positionFrom (p + q) t = p + positionFrom q t := by
  induction t generalizing q with
  | nil => rfl
  | cons c t ih => rw [positionFrom_cons, positionFrom_cons, Position.add_advance, ih]

/-- Reading from `p` ends where `p` is added to the end of the text. -/
theorem positionFrom_eq_add (p : Position) (t : Text) : positionFrom p t = p + endPosition t := by
  have h := positionFrom_add p .origin t
  rwa [Position.add_origin] at h

@[simp] theorem endPosition_nil : endPosition [] = .origin := rfl

theorem endPosition_cons (c : Char) (t : Text) :
    endPosition (c :: t) = Position.advance .origin c + endPosition t := by
  rw [endPosition, positionFrom_cons, positionFrom_eq_add]

/-- The end of a text is a homomorphism: it takes the empty text to the origin and joined texts to
sums. -/
theorem endPosition_append (s t : Text) : endPosition (s ++ t) = endPosition s + endPosition t := by
  rw [endPosition, positionFrom_append, positionFrom_eq_add]
  rfl

/-- All characters move the end on. -/
theorem origin_lt_endPosition {t : Text} (h : t ≠ []) : Position.origin < endPosition t := by
  obtain ⟨c, u, rfl⟩ := List.exists_cons_of_ne_nil h
  rw [endPosition_cons]
  exact lt_of_lt_of_le (Position.lt_advance _ c) (Position.le_add _ _)

/-- A text ends before each longer one that it begins. -/
theorem endPosition_lt_append (s : Text) {t : Text} (h : t ≠ []) :
    endPosition s < endPosition (s ++ t) := by
  have h' := (Position.add_lt_add_iff_left (endPosition s) _ _).mpr (origin_lt_endPosition h)
  rwa [Position.add_origin, ← endPosition_append] at h'

/-- A text ends no later than those that it begins. -/
theorem endPosition_le_of_isPrefix {s t : Text} (h : s <+: t) : endPosition s ≤ endPosition t := by
  obtain ⟨u, rfl⟩ := h
  rw [endPosition_append]
  exact Position.le_add _ _

/-- **The end of a text by two counts.** Its line is the number of line feeds, its character the
length of what follows the last of them. -/
theorem endPosition_eq (t : Text) :
    endPosition t = ⟨t.count '\n', (t.reverse.takeWhile (· != '\n')).length⟩ := by
  -- from the end, since the last line is read off backwards
  induction t using List.reverseRecOn with
  | nil => rfl
  | append_singleton t c ih =>
    rw [endPosition_append, ih, endPosition_cons, endPosition_nil, Position.add_origin]
    by_cases hc : c = '\n'
    · subst hc
      simp [Position.add_def, Position.origin]
    · rw [Position.advance_of_ne _ hc]
      simp [Position.add_def, Position.origin, hc]

end Text

end CssFragments
