import CssFragments.Number.Decimal

/-! # Numbers that are scaled digit by digit

A numeral in a message is read with the arithmetic of 64 bits alone. Its digits make up a whole
number as long as that fits a word; the digits that no longer fit count only by their place. The
whole number is then scaled by a power of ten, in one multiplication or division. Every step rounds,
so the result can differ from the number nearest to the numeral in its last binary digit.

* `Scaled.ofWhole`, `Scaled.fraction`: the digits before and after the point.
* `Scaled.toDouble?`: the number, unless it is too large. -/

namespace CssFragments

/-- The number `significand · 10 ^ exponent`, before it is scaled. -/
structure Scaled where
  significand : Nat
  exponent : Int
deriving DecidableEq

namespace Scaled

/-! ## Digits -/

/-- The number of values of a word of 64 bits. -/
def wordSize : Nat := 18446744073709551616

/-- A number with one more digit at its end, if that fits a word. -/
@[irreducible] def append? (n : Nat) (c : Char) : Option Nat :=
  let m := 10 * n + (c.toNat - '0'.toNat)
  if m < wordSize then some m else none

/-- Appends the digits before the point to `n`. From the first one that does not fit on, they only
raise the power of ten. -/
def whole (n : Nat) : Text → Scaled
  | [] => ⟨n, 0⟩
  | c :: rest =>
    match append? n c with
    | some m => whole m rest
    | none => ⟨n, (c :: rest).length⟩

/-- The number that is written by the digits before the point. -/
def ofWhole (t : Text) : Scaled := whole 0 t

/-- Appends the digits after the point, each of which lowers the power of ten. From the first one
that does not fit on, they are dropped. -/
def fraction (s : Scaled) : Text → Scaled
  | [] => s
  | c :: rest =>
    match append? s.significand c with
    | some m => fraction ⟨m, s.exponent - 1⟩ rest
    | none => s

/-- The number times a power of ten. -/
def shift (s : Scaled) (exponent : Int) : Scaled := { s with exponent := s.exponent + exponent }

/-! ## Scaling -/

/-- The largest exponent of ten whose power is a number of 64 bits. -/
def maxExponent : Nat := 308

/-- The number of 64 bits nearest to a power of ten. -/
def power (n : Nat) : Float := Float.ofScientific 1 false n

/-- Divides by a power of ten; if that is too large for a number of 64 bits, in several steps, until
nothing is left. -/
def divide (x : Float) (n : Nat) : Float :=
  if n ≤ maxExponent then x / power n
  else if x == 0 then x
  else divide (x / power maxExponent) (n - maxExponent)
termination_by n
decreasing_by
  have : 0 < maxExponent := by decide
  omega

/-- Multiplies by a power of ten, unless the result is too large. Nothing stays nothing. -/
def multiply? (x : Float) (n : Nat) : Option Float :=
  if n ≤ maxExponent then
    let y := x * power n
    if y.isInf then none else some y
  else if x == 0 then some x
  else none

/-- The number of 64 bits, unless it is too large. -/
def toDouble? (s : Scaled) : Option Float :=
  let x := s.significand.toUInt64.toFloat
  if 0 ≤ s.exponent then multiply? x s.exponent.toNat else some (divide x (-s.exponent).toNat)

end Scaled

end CssFragments
