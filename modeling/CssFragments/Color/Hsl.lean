import CssFragments.Color.Basic

/-! # Hue, saturation and lightness

Colors by their hue (an angle in degrees), saturation and lightness.

* `Color.ofHsl`: the color of a hue and two fractions.
* `Hsl`, `Color.hsl`: the hue in degrees and two percentages, rounded to whole numbers.
* `Color.renderHsl`: the notation as a function of these. -/

namespace CssFragments

/-- A hue in degrees, and saturation and lightness in percent. -/
structure Hsl where
  hue : Float32
  saturation : Float32
  lightness : Float32

namespace Color

/-- The color of a hue in degrees and two fractions; nothing shows through it (`Color.from_hsl`). -/
def ofHsl (hue saturation lightness : Float32) : Color :=
  let saturation := Single.clamp saturation 0 1
  let lightness := Single.clamp lightness 0 1
  let hue := Single.modulo hue 360 / 60
  let chroma := (1 - (2 * lightness - 1).abs) * saturation
  let x := chroma * (1 - (Single.remainder hue 2 - 1).abs)
  let (r, g, b) := match hue.toUInt32.toNat with
    | 0 => (chroma, x, 0)
    | 1 => (x, chroma, 0)
    | 2 => (0, chroma, x)
    | 3 => (0, x, chroma)
    | 4 => (x, 0, chroma)
    | _ => (chroma, 0, x)
  let m := lightness - chroma / 2
  let toByte (v : Float32) : UInt8 := Single.toByte ((v + m) * 255)
  solid (toByte r) (toByte g) (toByte b)

/-- Hue, saturation and lightness, each rounded (`Color.to_hsl`). A gray has no hue and no
saturation. -/
def hsl (c : Color) : Hsl :=
  let r := fraction c.red
  let g := fraction c.green
  let b := fraction c.blue
  let largest := fraction (max (max c.red c.green) c.blue)
  let smallest := fraction (min (min c.red c.green) c.blue)
  let lightness := (largest + smallest) / 2
  if largest == smallest then ⟨0, 0, (lightness * 100).round⟩
  else
    let delta := largest - smallest
    let saturation := delta / (1 - (2 * lightness - 1).abs)
    let hue :=
      if largest == r then 60 * Single.modulo ((g - b) / delta) 6
      else if largest == g then 60 * ((b - r) / delta + 2)
      else 60 * ((r - g) / delta + 4)
    ⟨hue.round, (saturation * 100).round, (lightness * 100).round⟩

/-- The notation as a function of hue, saturation and lightness; the opacity is given unless
nothing shows through. -/
def renderHsl (c : Color) : String :=
  let v := c.hsl
  let parts := Single.render v.hue ++ ", " ++ Single.render v.saturation ++ "%, " ++
    Single.render v.lightness ++ "%"
  if c.isSolid then "hsl(" ++ parts ++ ")"
  else "hsla(" ++ parts ++ ", " ++ Single.render c.alpha ++ ")"

/-- The notations in which a color is offered. -/
def notations (c : Color) : List String :=
  [String.ofList (if c.isSolid then c.hex else c.hexWithAlpha), c.render, c.renderHsl]

end Color

end CssFragments
