import CssFragments.Text.Basic
import CssFragments.Text.Extending
import CssFragments.Text.Invisible

/-! # Quoted texts

A text in a message stands between double quotes. Inside, quotes, backslashes and the characters
that would not show are written as escapes.

* `isHidden`: the characters that do not show by themselves.
* `Text.quoted`: the text between quotes. -/

namespace CssFragments

/-- Does not show by itself: nothing of it is seen, or only a change of the character before it. -/
def isHidden (c : Char) : Bool := isInvisible c || isExtending c

namespace Text

/-- The hexadecimal digits of a code point, without leading zeros. -/
def codePoint (c : Char) : Text := Nat.toDigits 16 c.toNat

/-- How a character is written between quotes. -/
def quotedChar (c : Char) : Text :=
  if c = '"' then ['\\', '"']
  else if c = '\\' then ['\\', '\\']
  else if c = '\n' then ['\\', 'n']
  else if c = '\r' then ['\\', 'r']
  else if c = '\t' then ['\\', 't']
  else if c.toNat = 0 then ['\\', '0']
  else if isHidden c then ['\\', 'u', '\x7b'] ++ codePoint c ++ ['\x7d']
  else [c]

/-- The text between double quotes. -/
def quoted (t : Text) : Text := '"' :: t.flatMap quotedChar ++ ['"']

end Text

end CssFragments
