import CssFragments.Text.Basic

/-! # White space

The characters that separate words, and the functions on texts that ignore them.

* `Char.isBlank`: the characters with the property `White_Space`.
* `Text.trim` and its halves: a text without the white space around it.
* `Text.words`, `Text.collapse`: the pieces between white space, and these with single spaces. -/

namespace CssFragments

/-- Has the property `White_Space`. -/
def isBlank (c : Char) : Bool :=
  let n := c.toNat
  (9 ≤ n && n ≤ 13) || n == 0x20 || n == 0x85 || n == 0xA0 || n == 0x1680 ||
    (0x2000 ≤ n && n ≤ 0x200A) || n == 0x2028 || n == 0x2029 || n == 0x202F || n == 0x205F ||
    n == 0x3000

namespace Text

/-- The text without the characters at its end that satisfy `p`. -/
def dropEndWhile (t : Text) (p : Char → Bool) : Text := (t.reverse.dropWhile p).reverse

/-- The characters at the end of the text that satisfy `p`. -/
def takeEndWhile (t : Text) (p : Char → Bool) : Text := (t.reverse.takeWhile p).reverse

theorem dropEndWhile_append_takeEndWhile (t : Text) (p : Char → Bool) :
    t.dropEndWhile p ++ t.takeEndWhile p = t := by
  rw [dropEndWhile, takeEndWhile, ← List.reverse_append, List.takeWhile_append_dropWhile,
    List.reverse_reverse]

/-- The text without white space before it. -/
def trimStart (t : Text) : Text := t.dropWhile isBlank

/-- The text without white space after it. -/
def trimEnd (t : Text) : Text := t.dropEndWhile isBlank

/-- The text without white space around it. -/
def trim (t : Text) : Text := t.trimStart.trimEnd

/-- The non-empty pieces between characters that satisfy `p`. -/
def fields (p : Char → Bool) (t : Text) : List Text := (t.splitOnP p).filter (! ·.isEmpty)

/-- The pieces between white space. -/
def words (t : Text) : List Text := t.fields isBlank

/-- The words with one space between them (`collapse_whitespace`). -/
def collapse (t : Text) : Text := [' '].intercalate t.words

/-- The first line, without the line end: a line feed and one carriage return before it. -/
def firstLine (t : Text) : Text :=
  let line := t.takeWhile (· ≠ '\n')
  if line.length < t.length then
    match line.getLast? with
    | some '\r' => line.dropLast
    | _ => line
  else line

/-- Lower case for the basic Latin letters; other characters stay. -/
def toLower (t : Text) : Text := t.map Char.toLower

/-- Upper case for the basic Latin letters; other characters stay. -/
def toUpper (t : Text) : Text := t.map Char.toUpper

end Text

end CssFragments
