import CssFragments.Color.Function
import CssFragments.Color.Named
import CssFragments.Editor.Color
import CssFragments.Sheet.Basic

/-! # The colors of a stylesheet

Colors are written in the values of declarations, in hexadecimal notation, by name, or as functions.
A color that stands inside another one is a part of it.

* `Sheet.colorOf?`: the color that a node denotes.
* `Sheet.colors`: the outermost colors, in the order of the text.
* `Sheet.presentations`: the ways to write a color. -/

namespace CssFragments

namespace Sheet

/-- The color that a node of the given kind and children denotes, unless there is an error in it
(`extract_color`). -/
def colorOf? (s : Sheet) (i : NodeInfo) (children : List Node) : Option Color :=
  if i.hasError then none
  else if i.kind = "color_value" then Color.ofHex? (s.textOf i)
  else if i.kind = "plain_value" then
    (NamedColor.find? (s.textOf i)).map fun c => .solid c.red c.green c.blue
  else if i.kind = "call_expression" then do
    let name ← Node.ofKind? "function_name" children
    let arguments ← Node.ofKind? "arguments" children
    Color.ofFunction? (s.textOf name.info) (s.textOf arguments.info)
  else none

/-- Whether what is right below a node is in the value of a declaration, given whether the node
itself is (`is_in_value`). -/
def holdsValue (kind : String) (inValue : Bool) : Bool :=
  if kind = "declaration" then true
  else if kind = "selectors" || kind = "rule_set" || kind = "block" then false
  else inValue

mutual

/-- The outermost colors in a node, given whether it is in the value of a declaration
(`walk_node_for_colors`). -/
def colorsInNode (s : Sheet) : Bool → Node → List ColorInformation
  | inValue, .node i cs =>
    match if inValue then s.colorOf? i cs else none with
    | some c => [⟨s.rangeOf i, c.channels⟩]
    | none => colorsInNodes s (holdsValue i.kind inValue) cs

/-- The outermost colors in several nodes. -/
def colorsInNodes (s : Sheet) : Bool → List Node → List ColorInformation
  | _, [] => []
  | inValue, n :: rest => colorsInNode s inValue n ++ colorsInNodes s inValue rest

end

/-- The colors of a stylesheet (`CssColorProvider.provide_document_colors`). -/
def colors (s : Sheet) : List ColorInformation := s.colorsInNode false s.tree.root

/-- The ways to write a color in the place of a range (`provide_color_presentations`). -/
def presentations (color : Channels) (range : Range) : List ColorPresentation :=
  (Color.ofChannels color).notations.map fun label => ⟨label, some ⟨range, label⟩, none⟩

end Sheet

end CssFragments
