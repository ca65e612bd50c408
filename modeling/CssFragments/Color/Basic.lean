import CssFragments.Number.Hex
import CssFragments.Number.Single

/-! # Colors

A color has a byte for each of its red, green and blue parts, and a fraction for its opacity.

* `Color.ofHex?`, `Color.hex`, `Color.hexWithAlpha`: hexadecimal notation.
* `Channels`, `Color.channels`, `Color.ofChannels`: the four parts as fractions.
* `Color.render`: the notation as a function of the parts. -/

namespace CssFragments

/-- A color: a byte for each part, and its opacity from zero to one (`Color`). -/
structure Color where
  red : UInt8
  green : UInt8
  blue : UInt8
  alpha : Float32

/-- A color whose four parts are fractions. -/
structure Channels where
  red : Float32
  green : Float32
  blue : Float32
  alpha : Float32

namespace Color

/-- A color that nothing shows through (`Color.new_rgb`). -/
def solid (red green blue : UInt8) : Color := ⟨red, green, blue, 1⟩

/-- Whether nothing shows through. -/
def isSolid (c : Color) : Bool := c.alpha == 1

/-- A byte as a fraction of the largest one. -/
def fraction (b : UInt8) : Float32 := Float32.ofNat b.toNat / 255

/-! ## Hexadecimal notation -/

/-- The color of a list of digits: one or two for each part, with or without the opacity. -/
def ofHexDigits? : List Nat → Option Color
  | [r, g, b] => some (solid (Hex.byte r r) (Hex.byte g g) (Hex.byte b b))
  | [r, g, b, a] => some ⟨Hex.byte r r, Hex.byte g g, Hex.byte b b, fraction (Hex.byte a a)⟩
  | [r, r', g, g', b, b'] => some (solid (Hex.byte r r') (Hex.byte g g') (Hex.byte b b'))
  | [r, r', g, g', b, b', a, a'] =>
    some ⟨Hex.byte r r', Hex.byte g g', Hex.byte b b', fraction (Hex.byte a a')⟩
  | _ => none

/-- The text without a number sign at its front. -/
def dropNumberSign : Text → Text
  | '#' :: t => t
  | t => t

/-- Reads 3, 4, 6 or 8 hexadecimal digits, with or without a number sign before them
(`Color.from_hex`). -/
def ofHex? (t : Text) : Option Color := ((dropNumberSign t).mapM Hex.digit?).bind ofHexDigits?

/-- A number sign and two digits for each part; the opacity is left out (`Color.to_hex`). -/
def hex (c : Color) : Text := '#' :: Hex.pair c.red ++ Hex.pair c.green ++ Hex.pair c.blue

/-- The opacity as a byte. -/
def alphaByte (c : Color) : UInt8 := (c.alpha * 255).round.toUInt8

/-- A number sign and two digits for each part and the opacity (`Color.to_hex_with_alpha`). -/
def hexWithAlpha (c : Color) : Text := c.hex ++ Hex.pair c.alphaByte

/-! ## Fractions -/

/-- The parts as fractions (`Color.to_lsp`). -/
def channels (c : Color) : Channels :=
  ⟨fraction c.red, fraction c.green, fraction c.blue, c.alpha⟩

/-- The nearest color to the given fractions (`Color.from_lsp`). -/
def ofChannels (c : Channels) : Color :=
  ⟨Single.toByte (c.red * 255), Single.toByte (c.green * 255), Single.toByte (c.blue * 255),
    Single.clamp c.alpha 0 1⟩

/-! ## Functional notation -/

/-- The three parts, divided by commas. -/
def parts (c : Color) : String :=
  toString c.red ++ ", " ++ toString c.green ++ ", " ++ toString c.blue

/-- The notation as a function; the opacity is given unless nothing shows through (`Color.fmt`). -/
def render (c : Color) : String :=
  if c.isSolid then "rgb(" ++ c.parts ++ ")"
  else "rgba(" ++ c.parts ++ ", " ++ Single.render c.alpha ++ ")"

end Color

end CssFragments
