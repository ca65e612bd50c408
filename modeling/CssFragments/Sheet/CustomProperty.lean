import CssFragments.Sheet.Basic

/-! # Custom properties

A custom property is a name that starts with two hyphens. A stylesheet declares it by giving it a
value like any other property.

* `isCustom`: the names of custom properties.
* `Sheet.customProperties`: all that a stylesheet declares, each once, in the order of the names. -/

namespace CssFragments

/-- Whether a name is that of a custom property. -/
def isCustom : Text → Bool
  | '-' :: '-' :: _ => true
  | _ => false

namespace Text

/-- Whether a text comes before another one in the order of the code points. -/
def precedes : Text → Text → Bool
  | _, [] => false
  | [], _ :: _ => true
  | a :: s, b :: t => a.toNat < b.toNat || (a == b && precedes s t)

/-- Puts a text into a list of texts that is in order, unless it is there. -/
def insertInto (t : Text) : List Text → List Text
  | [] => [t]
  | u :: rest =>
    if t.precedes u then t :: u :: rest
    else if t = u then u :: rest
    else u :: insertInto t rest

end Text

namespace Sheet

/-- The names of the custom properties that are declared, in the order of the names
(`custom_properties`). -/
def customProperties (s : Sheet) : List Text :=
  ((s.nodes.filter (·.kind == "property_name")).map fun n => s.textOf n.info).filter isCustom
    |>.foldl (fun names name => name.insertInto names) []

end Sheet

end CssFragments
