import CssFragments.Number.Decimal

/-! # The shortest decimal that reads back

Many decimals round to a given floating-point number. The one that is written has the fewest
digits; of several with equally many it is the nearest, and of two that are equally near the one
that a `Tie` prefers.

* `Tie.roundDiv`: the whole number nearest to a quotient.
* `Spread`: the interval of reals that round to a number, as exact fractions.
* `Spread.shortest`: the decimal.
* `BinaryValue.render`: the text of a number, in a given `NumberStyle`. -/

namespace CssFragments

/-- Which of the two whole numbers around a half is taken for it. -/
inductive Tie where
  /-- The larger. -/
  | up
  /-- The even one. -/
  | even
deriving DecidableEq

namespace Tie

/-- Whether a half above `below` goes to the next number. -/
def raises : Tie → Nat → Bool
  | .up, _ => true
  | .even, below => below % 2 == 1

/-- The whole number nearest to a quotient. -/
def roundDiv (tie : Tie) (num den : Nat) : Nat :=
  let below := num / den
  let twice := 2 * (num % den)
  if den < twice || (twice = den && tie.raises below) then below + 1 else below

end Tie

/-- The reals that round to a floating-point number, in units of `unitNum / unitDen`: from `low` to
`high` around `value`, the ends included if `closed`. -/
structure Spread where
  unitNum : Nat
  unitDen : Nat
  low : Nat
  value : Nat
  high : Nat
  closed : Bool

namespace Spread

/-- The spread of `significand · 2 ^ exponent`: half the distance to the neighbour on each side. A
tie is resolved towards an even significand, which includes the ends for an even one. -/
def ofBinary (significand : Nat) (exponent : Int) (narrow : Bool) : Spread where
  unitNum := Nat.pow 2 (exponent - 2).toNat
  unitDen := Nat.pow 2 (2 - exponent).toNat
  low := 4 * significand - if narrow then 1 else 2
  value := 4 * significand
  high := 4 * significand + 2
  closed := significand % 2 == 0

/-- Whether `digits · 10 ^ exponent` lies in the spread. -/
def holds (s : Spread) (digits : Nat) (exponent : Int) : Bool :=
  let x := digits * Nat.pow 10 exponent.toNat * s.unitDen
  let low := s.low * s.unitNum * Nat.pow 10 (-exponent).toNat
  let high := s.high * s.unitNum * Nat.pow 10 (-exponent).toNat
  if s.closed then low ≤ x && x ≤ high else low < x && x < high

/-- The power of ten of the first digit of the value. -/
def leadingExponent (s : Spread) : Int :=
  let num := s.value * s.unitNum
  if s.unitDen ≤ num then (Nat.toDigits 10 (num / s.unitDen)).length - 1
  else -(Nat.toDigits 10 ((s.unitDen - 1) / num)).length

/-- The decimal of `places` digits that is nearest to the value among those that read back, if its
two neighbours of that many digits are not both outside the spread. -/
def ofPlaces? (s : Spread) (tie : Tie) (places : Nat) : Option Decimal :=
  let exponent := s.leadingExponent - (places - 1 : Nat)
  let num := s.value * s.unitNum * Nat.pow 10 (-exponent).toNat
  let den := s.unitDen * Nat.pow 10 exponent.toNat
  let below := num / den
  if s.holds below exponent && s.holds (below + 1) exponent then
    some ⟨tie.roundDiv num den, exponent⟩
  else if s.holds below exponent then some ⟨below, exponent⟩
  else if s.holds (below + 1) exponent then some ⟨below + 1, exponent⟩
  else none

/-- The shortest decimal that reads back; a number of 64 bits never needs more than 17 digits. -/
def shortest (s : Spread) (tie : Tie) : Decimal :=
  ((List.range' 1 17).findSome? (s.ofPlaces? tie)).getD ⟨0, 0⟩

end Spread

/-- The decisions of a number format. -/
structure NumberStyle where
  /-- Whether a number with so many digits before the point is written without an exponent. -/
  isPositional : Int → Bool
  /-- What follows a number without a fraction and exponent. -/
  afterWhole : String
  /-- What stands before an exponent that is not negative. -/
  exponentSign : String
  /-- Which of two shortest decimals that are equally near is written. -/
  tie : Tie
  /-- The word for infinity. -/
  infinity : String
  /-- The word for what is no number. -/
  nan : String

namespace BinaryValue

/-- The text of a number: its sign, then the shortest decimal that reads back. -/
def render (style : NumberStyle) : BinaryValue → String
  | .nan => style.nan
  | .infinite negative => (if negative then "-" else "") ++ style.infinity
  | .finite negative significand exponent narrow =>
    let decimal : Decimal :=
      if significand = 0 then ⟨0, 0⟩
      else (Spread.ofBinary significand exponent narrow).shortest style.tie
    let isPositional := significand = 0 || style.isPositional decimal.magnitude
    let digits := if isPositional then decimal.positional else decimal.scientific style.exponentSign
    (if negative then "-" else "") ++ String.ofList digits ++
      if digits.contains '.' || !isPositional then "" else style.afterWhole

end BinaryValue

end CssFragments
