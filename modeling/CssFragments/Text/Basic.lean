import CssFragments.Text.Position

/-! # Texts

A text is its list of characters. Three ways to point into it are in use: the number of characters
before a place, the number of bytes of their UTF-8 form, and the `Position`.

* `Text.byteSize`, `Text.slice?`: sizes and pieces in bytes.
* `Text.endPosition`: the position after the last character.
* `Text.indexAt`: how many characters precede a position. A position past the end of its line
  stands for the end of that line, one past the last line for the end of the text.
* `Text.offsetAt`, `Text.positionAt`: from positions to byte offsets and back. -/

namespace CssFragments

/-- A text is its list of characters. -/
abbrev Text := List Char

namespace Text

/-! ## Sizes and pieces in bytes -/

/-- The size of the UTF-8 form. -/
def byteSize : Text → Nat
  | [] => 0
  | c :: t => c.utf8Size + byteSize t

@[simp] theorem byteSize_nil : byteSize [] = 0 := rfl

@[simp] theorem byteSize_cons (c : Char) (t : Text) :
    byteSize (c :: t) = c.utf8Size + byteSize t := rfl

@[simp] theorem byteSize_append (s t : Text) : byteSize (s ++ t) = byteSize s + byteSize t := by
  induction s with
  | nil => simp
  | cons c s ih => simp [ih, Nat.add_assoc]

/-- The characters that start before byte `b`. -/
def charsBefore : Text → Nat → Text
  | [], _ => []
  | c :: t, b => if b = 0 then [] else c :: charsBefore t (b - c.utf8Size)

/-- What follows the first `b` bytes, if they end between two characters. -/
def dropBytes? : Text → Nat → Option Text
  | t, 0 => some t
  | [], _ + 1 => none
  | c :: t, b => if c.utf8Size ≤ b then dropBytes? t (b - c.utf8Size) else none

/-- The first `b` bytes, if they end between two characters. -/
def takeBytes? : Text → Nat → Option Text
  | _, 0 => some []
  | [], _ + 1 => none
  | c :: t, b =>
    if c.utf8Size ≤ b then (takeBytes? t (b - c.utf8Size)).map (c :: ·) else none

/-- The bytes from `start` to `stop`, if both lie between characters and in this order. -/
def slice? (t : Text) (start stop : Nat) : Option Text :=
  if start ≤ stop then (t.dropBytes? start).bind (takeBytes? · (stop - start)) else none

/-! ## Positions -/

/-- The position after reading `t` from `p`. -/
def positionFrom (p : Position) (t : Text) : Position := t.foldl Position.advance p

/-- The position after the last character (`end_of`). -/
def endPosition (t : Text) : Position := positionFrom .origin t

@[simp] theorem positionFrom_nil (p : Position) : positionFrom p [] = p := rfl

@[simp] theorem positionFrom_cons (p : Position) (c : Char) (t : Text) :
    positionFrom p (c :: t) = positionFrom (p.advance c) t := rfl

theorem positionFrom_append (p : Position) (s t : Text) :
    positionFrom p (s ++ t) = positionFrom (positionFrom p s) t := List.foldl_append

/-- How many characters precede the given line and character. -/
def countBefore : Text → Nat → Nat → Nat
  | [], _, _ => 0
  | _ :: _, 0, 0 => 0
  | c :: t, 0, n + 1 => if c = '\n' then 0 else countBefore t 0 n + 1
  | c :: t, l + 1, n => countBefore t (if c = '\n' then l else l + 1) n + 1

/-- How many characters precede `p`, which is first moved back to the end of its line or text. -/
def indexAt (t : Text) (p : Position) : Nat := countBefore t p.line p.character

/-- The text before `p`. -/
def upTo (t : Text) (p : Position) : Text := t.take (t.indexAt p)

/-- How many bytes precede `p` (`position_to_byte`): the size of the text before `p`. -/
def offsetAt (t : Text) (p : Position) : Nat := byteSize (t.upTo p)

/-- The position at byte `b` (`byte_to_position`): the end of the characters that start before
it. -/
def positionAt (t : Text) (b : Nat) : Position := endPosition (t.charsBefore b)

/-- The range between two bytes. -/
def rangeAt (t : Text) (start stop : Nat) : Range := ⟨t.positionAt start, t.positionAt stop⟩

end Text

end CssFragments
