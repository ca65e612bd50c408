import CssFragments.Text.Basic

/-! # Hexadecimal digits

* `Hex.digit?`: the value of a digit, in either case.
* `Hex.pair`: a byte as two digits in lower case. -/

namespace CssFragments

namespace Hex

/-- The value of a hexadecimal digit. -/
def digit? (c : Char) : Option Nat :=
  if c.isDigit then some (c.toNat - '0'.toNat)
  else if 'a' ≤ c ∧ c ≤ 'f' then some (c.toNat - 'a'.toNat + 10)
  else if 'A' ≤ c ∧ c ≤ 'F' then some (c.toNat - 'A'.toNat + 10)
  else none

/-- A byte as two digits in lower case. -/
def pair (b : UInt8) : Text := [Nat.digitChar (b.toNat / 16), Nat.digitChar (b.toNat % 16)]

/-- The byte of two digits. -/
def byte (high low : Nat) : UInt8 := UInt8.ofNat (16 * high + low)

end Hex

end CssFragments
