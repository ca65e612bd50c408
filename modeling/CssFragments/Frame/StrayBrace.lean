import CssFragments.Text.Basic

/-! # Stray closing braces

A closing brace in a fragment that closes no block of the fragment closes the rule of the frame. It
is found by reading the fragment once, keeping apart what stands in comments and quotes.

* `BraceScan.step`: reads one character.
* `Text.strayBrace?`: the first closing brace without an opening one. -/

namespace CssFragments

namespace BraceScan

/-- What the scan is inside of (`Scan`). -/
inductive Mode where
  /-- Neither a comment nor quotes. -/
  | code
  /-- A comment. -/
  | comment
  /-- A text in quotes. -/
  | quoted (quote : Char)
deriving DecidableEq

/-- The state of the scan: what it is inside of, how many blocks are open, and the last character
if it can be the first one of a pair. -/
structure State where
  mode : Mode
  depth : Nat
  last : Option Char
deriving DecidableEq

/-- The state before the first character. -/
def State.start : State := ⟨.code, 0, none⟩

/-- Reads a character; none if it is a closing brace without an opening one. -/
def step (s : State) (c : Char) : Option State :=
  match s.mode with
  | .code =>
    -- the asterisk that opens a comment does not also begin its end
    if c = '*' ∧ s.last = some '/' then some ⟨.comment, s.depth, none⟩
    else if c = '"' ∨ c = '\'' then some ⟨.quoted c, s.depth, some c⟩
    else if c = '\x7b' then some ⟨.code, s.depth + 1, some c⟩
    else if c = '\x7d' then
      if s.depth = 0 then none else some ⟨.code, s.depth - 1, some c⟩
    else some ⟨.code, s.depth, some c⟩
  | .comment =>
    if c = '/' ∧ s.last = some '*' then some ⟨.code, s.depth, some c⟩
    else some ⟨.comment, s.depth, some c⟩
  | .quoted quote =>
    if (c = quote ∧ s.last ≠ some '\\') ∨ c = '\n' then some ⟨.code, s.depth, some c⟩
    else some ⟨.quoted quote, s.depth, some c⟩

/-- The position of the first closing brace without an opening one, from a state and a position
on. -/
def find? (s : State) (p : Position) : Text → Option Position
  | [] => none
  | c :: t =>
    match step s c with
    | none => some p
    | some s' => find? s' (p.advance c) t

end BraceScan

/-- The position of the first closing brace without an opening one (`unmatched_closing_brace`). -/
def Text.strayBrace? (t : Text) : Option Position := BraceScan.find? .start .origin t

end CssFragments
