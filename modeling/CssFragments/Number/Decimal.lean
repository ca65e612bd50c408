import CssFragments.Number.Binary
import CssFragments.Text.Basic

/-! # Decimal numbers

A decimal is a whole number times a power of ten.

* `Decimal.positional`, `Decimal.scientific`: its digits, with a point where the ones end, or with
  one digit before the point and an exponent.
* `Decimal.read?`: the reader for signed decimals with an optional fraction and exponent. -/

namespace CssFragments

/-- The number `digits · 10 ^ exponent`. -/
structure Decimal where
  digits : Nat
  exponent : Int
deriving DecidableEq

namespace Decimal

/-- The digits without the zeros that end them. -/
def significantDigits (d : Decimal) : Text :=
  ((Nat.toDigits 10 d.digits).reverse.dropWhile (· == '0')).reverse

/-- Digits with a decimal point `places` digits before their end. -/
def withPoint (digits : Text) (places : Nat) : Text :=
  if places < digits.length then
    digits.take (digits.length - places) ++ '.' :: digits.drop (digits.length - places)
  else ['0', '.'] ++ List.replicate (places - digits.length) '0' ++ digits

/-- How many digits stand before the point; negative if zeros stand between the point and the first
digit. -/
def magnitude (d : Decimal) : Int := (Nat.toDigits 10 d.digits).length + d.exponent

/-- All digits, without an exponent; a fraction only if there is one. Zero is a single digit. -/
def positional (d : Decimal) : Text :=
  if d.digits = 0 then ['0']
  else
    let digits := d.significantDigits
    let exponent := d.magnitude - digits.length
    if 0 ≤ exponent then digits ++ List.replicate exponent.toNat '0'
    else withPoint digits (-exponent).toNat

/-- One digit before the point, and an exponent of ten after a mark; `sign` stands before one that
is not negative. -/
def scientific (d : Decimal) (sign : String) : Text :=
  let digits := d.significantDigits
  let fraction := digits.drop 1
  let exponent := d.magnitude - 1
  digits.take 1 ++ (if fraction.isEmpty then [] else '.' :: fraction) ++
    'e' :: ((if 0 ≤ exponent then sign else "") ++ toString exponent).toList

/-- The value of a run of digits. -/
def ofDigits (t : Text) : Nat := t.foldl (fun n c => 10 * n + (c.toNat - '0'.toNat)) 0

/-- A numeral: a finite decimal, or one of the words for what is not finite. -/
inductive Numeral where
  /-- A decimal with its sign. -/
  | finite (negative : Bool) (value : Decimal)
  /-- The word for infinity with its sign. -/
  | infinite (negative : Bool)
  /-- The word for a value that is no number. -/
  | nan
deriving DecidableEq

/-- Takes a sign off the front. -/
def takeSign : Text → Bool × Text
  | '-' :: t => (true, t)
  | '+' :: t => (false, t)
  | t => (false, t)

/-- The value of an exponent after its mark: an optional sign and at least one digit. -/
def readExponent? (t : Text) : Option Int :=
  let (negative, digits) := takeSign t
  if digits.isEmpty || !digits.all Char.isDigit then none
  else some (if negative then -(ofDigits digits : Int) else ofDigits digits)

/-- Digits with an optional fraction and an optional exponent; at least one digit before the
exponent. -/
def readUnsigned? (t : Text) : Option Decimal :=
  let whole := t.takeWhile Char.isDigit
  let rest := t.dropWhile Char.isDigit
  let (fraction, rest) := match rest with
    | '.' :: r => (r.takeWhile Char.isDigit, r.dropWhile Char.isDigit)
    | r => ([], r)
  if whole.isEmpty && fraction.isEmpty then none
  else
    let value (e : Int) : Decimal := ⟨ofDigits (whole ++ fraction), e - fraction.length⟩
    match rest with
    | [] => some (value 0)
    | c :: r => if c == 'e' || c == 'E' then (readExponent? r).map value else none

/-- Reads a whole text as a numeral. The words may be in any case. -/
def read? (t : Text) : Option Numeral :=
  let (negative, rest) := takeSign t
  let word := String.ofList (rest.map Char.toLower)
  if word = "inf" || word = "infinity" then some (.infinite negative)
  else if word = "nan" then some .nan
  else (readUnsigned? rest).map (.finite negative)

/-- How far the first digit may stand from the point before the nearest number of 32 bits is
certainly infinite or zero. -/
def reach : Nat := 400

/-- The nearest number of 32 bits. -/
def toSingle (d : Decimal) : Float32 :=
  if d.digits = 0 || d.magnitude < -reach then 0
  else if d.magnitude > reach then Float32.ofBits 0x7F800000
  else Float32.ofScientific d.digits (d.exponent < 0) d.exponent.natAbs

/-- The nearest number of 32 bits to a numeral. -/
def Numeral.toSingle : Numeral → Float32
  | .finite negative d => if negative then -d.toSingle else d.toSingle
  | .infinite negative => Float32.ofBits (if negative then 0xFF800000 else 0x7F800000)
  | .nan => Float32.ofBits 0x7FC00000

/-- Reads a number of 32 bits. -/
def readSingle? (t : Text) : Option Float32 := (read? t).map Numeral.toSingle

end Decimal

end CssFragments
