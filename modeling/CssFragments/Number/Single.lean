import CssFragments.Number.Shortest

/-! # Numbers of 32 bits

The operations on numbers of 32 bits that colors need beside the built-in arithmetic.

* `Single.clamp`: into an interval, by comparisons alone.
* `Single.remainder`, `Single.modulo`: the exact remainder, with the sign of the dividend or never
  negative.
* `Single.render`: the text of a number. -/

namespace CssFragments

namespace Single

/-- Moves `x` into the interval. What is no number is in no order with the bounds and stays. -/
def clamp (x low high : Float32) : Float32 :=
  let y := if x < low then low else x
  if y > high then high else y

/-- The byte nearest to `x`: halves go away from zero, and what is no number is zero. -/
def toByte (x : Float32) : UInt8 := (clamp x.round 0 255).toUInt8

/-- A value that is no number. -/
def nan : Float32 := Float32.ofBits 0x7FC00000

/-- What is left of `x` after taking off as many whole `y` as it holds; the sign is that of `x`.
The result needs no rounding, since it is a multiple of the smaller of the two exponents. -/
def remainder (x y : Float32) : Float32 :=
  match BinaryValue.ofSingle x, BinaryValue.ofSingle y with
  | .finite negative m e _, .finite _ n f _ =>
    if n = 0 then nan
    else
      let exponent := min e f
      let rest := m * Nat.pow 2 (e - exponent).toNat % (n * Nat.pow 2 (f - exponent).toNat)
      let r := (Float32.ofNat rest).scaleB exponent
      if negative then -r else r
  | .finite .., .infinite _ => x
  | _, _ => nan

/-- The remainder that is not negative. -/
def modulo (x y : Float32) : Float32 :=
  let r := remainder x y
  if r < 0 then r + y.abs else r

/-- Numbers in colors: no exponent, and nothing after a whole number; of two decimals that are
equally near, the larger. -/
def style : NumberStyle where
  isPositional _ := true
  afterWhole := ""
  exponentSign := ""
  tie := .up
  infinity := "inf"
  nan := "NaN"

/-- The text of a number in a color. -/
def render (x : Float32) : String := (BinaryValue.ofSingle x).render style

end Single

namespace Double

/-- Numbers in messages: a fraction also after a whole number, and a signed exponent if there are
more than 16 digits before the point or more than four zeros after it; of two decimals that are
equally near, the even one. -/
def style : NumberStyle where
  isPositional n := -5 < n && n ≤ 16
  afterWhole := ".0"
  exponentSign := "+"
  tie := .even
  infinity := "inf"
  nan := "NaN"

/-- The text of a number in a message. -/
def render (x : Float) : String := (BinaryValue.ofDouble x).render style

end Double

end CssFragments
