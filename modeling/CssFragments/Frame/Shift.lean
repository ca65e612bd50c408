import CssFragments.Frame.Basic

/-! # Coordinates in a frame

A position in a fragment has another one in the stylesheet around it. The first line of the fragment
is moved down by lines and to the right by columns, all others only down.

* `Shift`: how far, and where the fragment ends.
* `Shift.enter`: from the fragment into the stylesheet.
* `Shift.locate`: from the stylesheet back, or on which side of the fragment a position is.
* `Shift.leave?`, `Shift.leaveRange?`, `Shift.leaveLine?`: back, if it is in the fragment.
* `Shift.clampRange?`: back, without what is outside. -/

namespace CssFragments

/-- How far a fragment is moved by its frame, and where it ends in its own coordinates
(`Translator`): `0:c` becomes `lines:(c + columns)`, and `l:c` on a later line `(l + lines):c`. -/
structure Shift where
  lines : Nat
  columns : Nat
  contentEnd : Position
deriving DecidableEq

/-- The shift of a fragment in its frame. -/
def Framed.shift (f : Framed) : Shift := ⟨f.frame.lines, f.frame.columns, f.contentEnd⟩

/-- Where a position of the stylesheet is (`Placement`). -/
inductive Placement where
  /-- In the opening of the frame. -/
  | before
  /-- In the fragment, at a position of it. -/
  | inside (p : Position)
  /-- In the closing of the frame. -/
  | after
deriving DecidableEq

namespace Shift

/-- The position in the stylesheet of `min p contentEnd` (`to_wrapped`): one behind the end of the
fragment stands for the end. -/
def enter (s : Shift) (p : Position) : Except Overflow Position :=
  let q := p.earlier s.contentEnd
  if q.line = 0 then do
    let character ← Coordinate.add q.character s.columns
    return ⟨s.lines, character⟩
  else do
    let line ← Coordinate.add q.line s.lines
    return ⟨line, q.character⟩

/-- The range in the stylesheet of a range in the fragment (`to_wrapped_range`). -/
def enterRange (s : Shift) (r : Range) : Except Overflow Range := do
  let start ← s.enter r.start
  let stop ← s.enter r.stop
  return ⟨start, stop⟩

/-- Places a position that is not before the fragment; the end belongs to the fragment. -/
def place (s : Shift) (p : Position) : Placement := if s.contentEnd < p then .after else .inside p

/-- Where a position of the stylesheet is (`Translator.locate`): before `lines:columns`, or else at
its distance from there, as long as that is not behind `contentEnd`. -/
def locate (s : Shift) (p : Position) : Placement :=
  if p.line < s.lines then .before
  else if p.line = s.lines then
    if p.character < s.columns then .before else s.place ⟨0, p.character - s.columns⟩
  else s.place ⟨p.line - s.lines, p.character⟩

/-- The position in the fragment of a position in the stylesheet, if it is there (`to_caller`). -/
def leave? (s : Shift) (p : Position) : Option Position :=
  match s.locate p with
  | .inside q => some q
  | _ => none

/-- The range in the fragment of a range in the stylesheet, if both its ends are there
(`to_caller_range`). -/
def leaveRange? (s : Shift) (r : Range) : Option Range := do
  let start ← s.leave? r.start
  let stop ← s.leave? r.stop
  return ⟨start, stop⟩

/-- The start of a range, moved into the fragment. -/
def clampStart (s : Shift) (p : Position) : Position :=
  match s.locate p with
  | .before => .origin
  | .inside q => q
  | .after => s.contentEnd

/-- The end of a range, moved into the fragment, unless it is before that. -/
def clampStop? (s : Shift) (p : Position) : Option Position :=
  match s.locate p with
  | .before => none
  | .inside q => some q
  | .after => some s.contentEnd

/-- The part of a range that is in the fragment; none for a range that ends before it
(`clamp_to_caller_range`). -/
def clampRange? (s : Shift) (r : Range) : Option Range :=
  (s.clampStop? r.stop).map (⟨s.clampStart r.start, ·⟩)

/-- The line of the fragment of a line of the stylesheet, if it is one (`to_caller_line`). -/
def leaveLine? (s : Shift) (line : Nat) : Option Nat :=
  if s.lines ≤ line ∧ line - s.lines ≤ s.contentEnd.line then some (line - s.lines) else none

end Shift

end CssFragments
