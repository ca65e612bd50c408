/-! # Positions and ranges

A position is a place between two characters of a text, given by its line and by the number of
characters since the start of that line, both from zero. Positions are ordered as they follow each
other in a text: by line, then by character.

* `Position.advance`: the position after reading one more character.
* `Coordinate.add`, `Coordinate.sub`: sums and differences within the 32 bits that a coordinate
  has on the wire.
* `Range`: two positions, the second exclusive. -/

namespace CssFragments

/-- A place between two characters: a line, and the characters since the start of that line. -/
structure Position where
  line : Nat
  character : Nat
deriving DecidableEq

namespace Position

/-- The start of every text. -/
def origin : Position := ⟨0, 0⟩

/-- Reading order: by line, then by character. -/
protected def le (p q : Position) : Prop :=
  p.line < q.line ∨ p.line = q.line ∧ p.character ≤ q.character

/-- Strict reading order. -/
protected def lt (p q : Position) : Prop :=
  p.line < q.line ∨ p.line = q.line ∧ p.character < q.character

instance : LE Position := ⟨Position.le⟩

instance : LT Position := ⟨Position.lt⟩

instance (p q : Position) : Decidable (p ≤ q) :=
  inferInstanceAs (Decidable (p.line < q.line ∨ p.line = q.line ∧ p.character ≤ q.character))

instance (p q : Position) : Decidable (p < q) :=
  inferInstanceAs (Decidable (p.line < q.line ∨ p.line = q.line ∧ p.character < q.character))

theorem le_def {p q : Position} :
    p ≤ q ↔ p.line < q.line ∨ p.line = q.line ∧ p.character ≤ q.character := Iff.rfl

theorem lt_def {p q : Position} :
    p < q ↔ p.line < q.line ∨ p.line = q.line ∧ p.character < q.character := Iff.rfl

/-- The earlier of two positions. -/
def earlier (p q : Position) : Position := if p ≤ q then p else q

/-- The position after a character that is read at `p`: a line feed starts the next line. -/
def advance (p : Position) (c : Char) : Position :=
  if c = '\n' then ⟨p.line + 1, 0⟩ else ⟨p.line, p.character + 1⟩

@[simp] theorem advance_newline (p : Position) : p.advance '\n' = ⟨p.line + 1, 0⟩ := rfl

theorem advance_of_ne (p : Position) {c : Char} (h : c ≠ '\n') :
    p.advance c = ⟨p.line, p.character + 1⟩ := by
  simp [advance, h]

/-- The text of a position in messages: line and character, divided by a colon. -/
def render (p : Position) : String :=
  toString p.line ++ ":" ++ toString p.character

end Position

/-- Two positions of one text; what lies between them is meant. -/
structure Range where
  start : Position
  stop : Position
deriving DecidableEq

namespace Range

/-- The range that holds nothing and stands at `p`. -/
def empty (p : Position) : Range := ⟨p, p⟩

end Range

/-- Arithmetic on coordinates that leaves the 32 bits of a coordinate. -/
inductive Overflow where
  | add
  | subtract
deriving DecidableEq

namespace Overflow

/-- What is reported when coordinate arithmetic leaves its bounds. -/
def message : Overflow → String
  | .add => "attempt to add with overflow"
  | .subtract => "attempt to subtract with overflow"

end Overflow

namespace Coordinate

/-- The number of values that a coordinate of 32 bits can take. -/
def bound : Nat := 4294967296

/-- The sum of two coordinates, if it is one. -/
def add (a b : Nat) : Except Overflow Nat :=
  if a + b < bound then .ok (a + b) else .error .add

/-- The difference of two coordinates, if it is one. -/
def sub (a b : Nat) : Except Overflow Nat :=
  if b ≤ a then .ok (a - b) else .error .subtract

end Coordinate

end CssFragments
