import CssFragments.Editor.Hover
import CssFragments.Editor.Operation
import CssFragments.Property.Table
import CssFragments.Sheet.Diagnosis
import CssFragments.Sheet.CustomProperty

/-! # What a symbol is

A hover explains the word under a cursor: a custom property by the value that its first declaration
gives it, and a known property by what it does.

* `Sheet.declaredValue`: the value of a custom property.
* `Sheet.hover?`: the explanation. -/

namespace CssFragments

namespace Sheet

/-- What follows the name in a declaration, without the colons before and the semicolons after it
and the white space around these (the end of `declared_value`). -/
def valuePart (t : Text) : Text :=
  let afterColon := Text.trim (t.trimStart.dropWhile (· == ':'))
  (afterColon.dropEndWhile (· == ';')).trim

/-- Whether a node declares the given property. -/
def declares (s : Sheet) (name : Text) (n : Node) : Bool :=
  n.kind == "declaration" &&
    match propertyOf? n.children with
    | some property => s.textOf property == name
    | none => false

/-- The value that the first declaration of a property gives it, if there is one
(`declared_value`). -/
def declaredValue (s : Sheet) (name : Text) : Except Failure (Option Text) :=
  match s.nodes.find? (s.declares name) with
  | none => .ok none
  | some n =>
    match propertyOf? n.children with
    | none => .ok none
    | some property =>
      match s.text.slice? property.stop n.info.stop with
      | none => .error .splitCharacter
      | some rest => .ok (some (valuePart rest))

/-- An explanation of a node (`markdown`). -/
def explain (s : Sheet) (i : NodeInfo) (text : String) : Hover :=
  ⟨.markup "markdown" text, some (s.rangeOf i)⟩

/-- The explanation of a custom property: its declaration (`custom_property_hover`). -/
def explainCustom (s : Sheet) (i : NodeInfo) (name : Text) : Except Failure (Option Hover) := do
  let value ← s.declaredValue name
  return value.map fun v =>
    s.explain i ("```css\n" ++ String.ofList name ++ ": " ++ String.ofList v ++ "\n```")

/-- The explanation of a known property: its name and what it does. -/
def explainKnown (s : Sheet) (i : NodeInfo) (name : Text) : Option Hover :=
  (Property.find? name).map fun p =>
    s.explain i ("**" ++ p.name ++ "**\n\n" ++ p.description)

/-- The explanation of the word under a cursor (`CssHoverProvider.hover`). -/
def hover? (s : Sheet) (p : Position) : Except Failure (Option Hover) :=
  let i := (s.underCursor p).node.info
  let name := s.textOf i
  match i.kind with
  | "property_name" =>
    if isCustom name then s.explainCustom i name else .ok (s.explainKnown i name)
  | "plain_value" => if isCustom name then s.explainCustom i name else .ok none
  | _ => .ok none

end Sheet

end CssFragments
