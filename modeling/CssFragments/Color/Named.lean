import CssFragments.Text.Blank

/-! # Named colors

The colors that have a name, with their red, green and blue parts.

* `NamedColor.table`: the colors, in the order of their names.
* `NamedColor.find?`: the color of a given name, in any case. -/

namespace CssFragments

/-- A color that has a name. -/
structure NamedColor where
  name : String
  red : UInt8
  green : UInt8
  blue : UInt8
deriving DecidableEq

namespace NamedColor

/-- All named colors, in the order of their names. -/
def table : List NamedColor :=
  [⟨"aqua", 0, 255, 255⟩,
   ⟨"black", 0, 0, 0⟩,
   ⟨"blue", 0, 0, 255⟩,
   ⟨"brown", 165, 42, 42⟩,
   ⟨"coral", 255, 127, 80⟩,
   ⟨"crimson", 220, 20, 60⟩,
   ⟨"cyan", 0, 255, 255⟩,
   ⟨"darkblue", 0, 0, 139⟩,
   ⟨"darkgray", 169, 169, 169⟩,
   ⟨"darkgreen", 0, 100, 0⟩,
   ⟨"darkred", 139, 0, 0⟩,
   ⟨"dimgray", 105, 105, 105⟩,
   ⟨"fuchsia", 255, 0, 255⟩,
   ⟨"gold", 255, 215, 0⟩,
   ⟨"gray", 128, 128, 128⟩,
   ⟨"green", 0, 128, 0⟩,
   ⟨"grey", 128, 128, 128⟩,
   ⟨"hotpink", 255, 105, 180⟩,
   ⟨"indigo", 75, 0, 130⟩,
   ⟨"ivory", 255, 255, 240⟩,
   ⟨"khaki", 240, 230, 140⟩,
   ⟨"lavender", 230, 230, 250⟩,
   ⟨"lightblue", 173, 216, 230⟩,
   ⟨"lightgray", 211, 211, 211⟩,
   ⟨"lightgreen", 144, 238, 144⟩,
   ⟨"lime", 0, 255, 0⟩,
   ⟨"magenta", 255, 0, 255⟩,
   ⟨"maroon", 128, 0, 0⟩,
   ⟨"navy", 0, 0, 128⟩,
   ⟨"olive", 128, 128, 0⟩,
   ⟨"orange", 255, 165, 0⟩,
   ⟨"orchid", 218, 112, 214⟩,
   ⟨"pink", 255, 192, 203⟩,
   ⟨"plum", 221, 160, 221⟩,
   ⟨"purple", 128, 0, 128⟩,
   ⟨"rebeccapurple", 102, 51, 153⟩,
   ⟨"red", 255, 0, 0⟩,
   ⟨"salmon", 250, 128, 114⟩,
   ⟨"silver", 192, 192, 192⟩,
   ⟨"skyblue", 135, 206, 235⟩,
   ⟨"slategray", 112, 128, 144⟩,
   ⟨"tan", 210, 180, 140⟩,
   ⟨"teal", 0, 128, 128⟩,
   ⟨"tomato", 255, 99, 71⟩,
   ⟨"turquoise", 64, 224, 208⟩,
   ⟨"violet", 238, 130, 238⟩,
   ⟨"wheat", 245, 222, 179⟩,
   ⟨"white", 255, 255, 255⟩,
   ⟨"whitesmoke", 245, 245, 245⟩,
   ⟨"yellow", 255, 255, 0⟩]

/-- The color of a given name; the case of basic Latin letters does not matter (`named_color`). -/
def find? (name : Text) : Option NamedColor :=
  let name := String.ofList name.toLower
  table.find? fun c => c.name == name

end NamedColor

end CssFragments
