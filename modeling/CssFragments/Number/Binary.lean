/-! # Binary floating-point numbers as exact values

A finite binary floating-point number is a whole number times a power of two. Its bits say which.

* `BinaryFormat`: how many bits hold the fraction and the exponent.
* `BinaryValue`: what the bits stand for, with exact integers for a finite number.
* `BinaryFormat.decode`: from bits to the value. -/

namespace CssFragments

/-- The widths of the two fields that follow the sign bit. -/
structure BinaryFormat where
  fractionBits : Nat
  exponentBits : Nat

/-- What the bits of a floating-point number stand for. -/
inductive BinaryValue where
  /-- No number. -/
  | nan
  /-- Beyond all finite numbers. -/
  | infinite (negative : Bool)
  /-- The number `significand · 2 ^ exponent`. It is `narrow` if the next smaller magnitude is only
  half as far away as the next larger one. -/
  | finite (negative : Bool) (significand : Nat) (exponent : Int) (narrow : Bool)
deriving DecidableEq

namespace BinaryFormat

/-- Numbers of 32 bits. -/
def single : BinaryFormat := ⟨23, 8⟩

/-- Numbers of 64 bits. -/
def double : BinaryFormat := ⟨52, 11⟩

/-- What is subtracted from the exponent field. -/
def bias (f : BinaryFormat) : Nat := Nat.pow 2 (f.exponentBits - 1) - 1

/-- Reads sign, exponent and fraction off the bits. -/
def decode (f : BinaryFormat) (bits : Nat) : BinaryValue :=
  let fraction := bits % Nat.pow 2 f.fractionBits
  let exponent := bits / Nat.pow 2 f.fractionBits % Nat.pow 2 f.exponentBits
  let negative := bits / Nat.pow 2 (f.fractionBits + f.exponentBits) % 2 == 1
  if exponent = Nat.pow 2 f.exponentBits - 1 then
    if fraction = 0 then .infinite negative else .nan
  else if exponent = 0 then
    .finite negative fraction (1 - (f.bias + f.fractionBits : Nat)) false
  else
    .finite negative (Nat.pow 2 f.fractionBits + fraction)
      (exponent - (f.bias + f.fractionBits : Nat)) (fraction == 0 && exponent > 1)

end BinaryFormat

/-- The value of a number of 32 bits. -/
def BinaryValue.ofSingle (x : Float32) : BinaryValue := BinaryFormat.single.decode x.toBits.toNat

/-- The value of a number of 64 bits. -/
def BinaryValue.ofDouble (x : Float) : BinaryValue := BinaryFormat.double.decode x.toBits.toNat

end CssFragments
