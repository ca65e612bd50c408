import CssFragments.Color.Hsl
import CssFragments.Text.Blank

/-! # Colors written as functions

A color function has three or four arguments in parentheses, divided by commas, slashes or white
space. The fourth is the opacity.

* `Color.ofFunction?`: the color of a function by its name and arguments. -/

namespace CssFragments

namespace Color

/-- The text without the percent sign at its end, if there is one. -/
def percent? (t : Text) : Option Text :=
  match t.reverse with
  | '%' :: r => some r.reverse
  | _ => none

/-- An opacity: a number or a percentage, moved into the interval from zero to one. -/
def alphaArgument? (t : Text) : Option Float32 :=
  let value := match percent? t with
    | some p => (Decimal.readSingle? p).map (· / 100)
    | none => Decimal.readSingle? t
  value.map (Single.clamp · 0 1)

/-- A part of a color: a number up to 255 or a percentage of that. -/
def partArgument? (t : Text) : Option UInt8 :=
  let value := match percent? t with
    | some p => (Decimal.readSingle? p).map (· * 255 / 100)
    | none => Decimal.readSingle? t
  value.map Single.toByte

/-- A text read backwards, without the unit of degrees at its front, however often it is there. -/
def dropDegrees : Text → Text
  | 'g' :: 'e' :: 'd' :: t => dropDegrees t
  | t => t

/-- A hue: a number, with or without the unit of degrees. -/
def hueArgument? (t : Text) : Option Float32 :=
  Decimal.readSingle? (dropDegrees t.reverse).reverse

/-- A percentage as a fraction (`parse_fraction`). -/
def percentArgument? (t : Text) : Option Float32 :=
  ((percent? t).bind Decimal.readSingle?).map (· / 100)

/-- The text between the parentheses around it, if it stands in some. -/
def inParentheses? (t : Text) : Option Text :=
  match t.trim with
  | '(' :: r =>
    match r.reverse with
    | ')' :: s => some s.reverse
    | _ => none
  | _ => none

/-- The arguments of a color function. -/
def arguments (t : Text) : List Text := t.fields fun c => c == ',' || c == '/' || isBlank c

/-- The color of three arguments under the name of a function. -/
def ofArguments? (name : String) (first second third : Text) : Option Color :=
  match name with
  | "rgb" | "rgba" => do
    return solid (← partArgument? first) (← partArgument? second) (← partArgument? third)
  | "hsl" | "hsla" => do
    return ofHsl (← hueArgument? first) (← percentArgument? second) (← percentArgument? third)
  | _ => none

/-- The color that a function of the given name, in any case, has for the given arguments, which
come with their parentheses (`Color.from_function`). -/
def ofFunction? (name args : Text) : Option Color := do
  let inner ← inParentheses? args
  let name := String.ofList name.toLower
  match arguments inner with
  | [first, second, third] => ofArguments? name first second third
  | [first, second, third, fourth] =>
    let alpha ← alphaArgument? fourth
    let c ← ofArguments? name first second third
    return { c with alpha := alpha }
  | _ => none

end Color

end CssFragments
