import CssFragments.Color.Basic
import CssFragments.Color.Named
import CssFragments.Editor.Completion
import CssFragments.Property.Table
import CssFragments.Sheet.CustomProperty
import CssFragments.Text.Letter

/-! # What can be typed

What is offered at a position depends on the text before the word that is being typed there: the
name of a property, a value of a property, or a custom property to refer to.

* `CompletionContext.ofText`: what is being typed after a text.
* `Sheet.complete`: what is offered, each with an edit that replaces the word typed so far. -/

namespace CssFragments

/-- What is being typed (`CompletionContext`). -/
inductive CompletionContext where
  /-- The name of a property. -/
  | property
  /-- A value of the property of that name, in lower case. -/
  | value (property : Text)
  /-- A custom property to refer to. -/
  | reference
deriving DecidableEq

namespace CompletionContext

/-- What opens a reference to a custom property. -/
def referenceOpening : Text := ['v', 'a', 'r', '(']

/-- The characters that end a declaration or divide its name and value. -/
def isBoundary (c : Char) : Bool := c == '\x7b' || c == '\x7d' || c == ';' || c == ':'

/-- What is being typed after a text: a value, if the last boundary is a colon after a name
(`completion_context`). -/
def ofText (before : Text) : CompletionContext :=
  if referenceOpening.isSuffixOf before then .reference
  else
    let head := before.dropEndWhile (! isBoundary ·)
    match head.getLast? with
    | some ':' =>
      let name := (Text.trimEnd head.dropLast).lastWord
      if name.isEmpty then .property else .value name.toLower
    | _ => .property

end CompletionContext

namespace CompletionItem

/-- A text that is offered as it is. -/
def ofLabel (range : Range) (label : String) (kind : CompletionKind) : CompletionItem :=
  { bare label with
    kind := some kind
    edit := some (.edit ⟨range, label⟩) }

/-- A property is offered together with its colon, and then its values are
(`complete_property_names`). -/
def ofProperty (range : Range) (p : Property) : CompletionItem :=
  { ofLabel range p.name .property with
    documentation := some (.plain p.description)
    edit := some (.edit ⟨range, p.name ++ ": "⟩)
    command := some ⟨"Suggest values", "editor.action.triggerSuggest", none⟩ }

/-- A named color is offered with its hexadecimal notation as an explanation. -/
def ofNamedColor (range : Range) (c : NamedColor) : CompletionItem :=
  { ofLabel range c.name .color with
    documentation := some (.plain (String.ofList (Color.solid c.red c.green c.blue).hex)) }

/-- A custom property is offered by its name. -/
def ofCustomProperty (range : Range) (name : Text) : CompletionItem :=
  ofLabel range (String.ofList name) .customProperty

/-- A custom property is offered as a value by a reference to it. -/
def ofReference (range : Range) (name : Text) : CompletionItem :=
  ofLabel range ("var(" ++ String.ofList name ++ ")") .customProperty

end CompletionItem

namespace Sheet

/-- Whether colors are offered as values of a property: for a known one by the table, else for
custom properties. -/
def offersColors (name : Text) : Bool :=
  match Property.find? name with
  | some p => p.acceptsColor
  | none => isCustom name

/-- What is offered as a value of a property (`complete_property_value`). -/
def valueItems (s : Sheet) (range : Range) (name : Text) : List CompletionItem :=
  let keywords := ((Property.find? name).map Property.keywords).getD []
  keywords.map (CompletionItem.ofLabel range · .value) ++
    (if offersColors name then NamedColor.table.map (CompletionItem.ofNamedColor range) else []) ++
    Property.globalKeywords.map (CompletionItem.ofLabel range · .keyword) ++
    s.customProperties.map (CompletionItem.ofReference range)

/-- What is offered in a context. -/
def itemsFor (s : Sheet) (range : Range) : CompletionContext → List CompletionItem
  | .property => Property.table.map (CompletionItem.ofProperty range)
  | .value name => s.valueItems range name
  | .reference => s.customProperties.map (CompletionItem.ofCustomProperty range)

/-- What is offered at a position, to replace the word that was typed up to there
(`CssCompletionProvider.complete`). -/
def complete (s : Sheet) (p : Position) : Except Overflow CompletionList := do
  let before := s.text.upTo p
  let start ← Coordinate.sub p.character before.lastWord.length
  let range : Range := ⟨⟨p.line, start⟩, p⟩
  return ⟨false, s.itemsFor range (.ofText before.beforeLastWord)⟩

end Sheet

end CssFragments
