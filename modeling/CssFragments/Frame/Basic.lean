import CssFragments.Text.Blank
import CssFragments.Text.Edit

/-! # Fragments in a frame

A fragment is what stands between the braces of a rule. To analyze it like any stylesheet, it is put
into a frame: the opening of a rule before it and the closing brace on a line of its own after it.

* `Frame`: the text before a fragment.
* `Framed`: a fragment in its frame.
* `Framed.sheet`: the complete stylesheet.
* `Framed.contentEnd`: where the fragment ends, in its own coordinates. -/

namespace CssFragments

/-- What is put around a fragment, by the text before it (`WrapFormat`). -/
structure Frame where
  opening : Text
deriving DecidableEq

namespace Frame

/-- The frame that is used unless another one is asked for. -/
def standard : Frame := ⟨[':', 'h', 'o', 's', 't', ' ', '\x7b', '\n']⟩

/-- The text after every fragment (`WrapFormat.suffix`). -/
def closing : Text := ['\n', '\x7d']

/-- How many lines the opening adds before the first line of a fragment: one for each line feed
(`line_offset`). -/
def lines (f : Frame) : Nat := f.opening.count '\n'

/-- How many characters the opening adds before the first character of a fragment: those behind its
last line feed (`first_line_column_offset`). -/
def columns (f : Frame) : Nat := (f.opening.takeEndWhile (· != '\n')).length

end Frame

/-- A fragment in its frame (`WrappedDocument`). -/
structure Framed where
  frame : Frame
  fragment : Document
deriving DecidableEq

namespace Framed

/-- The complete stylesheet, under the address and version of the fragment
(`WrappedDocument.document`). -/
def sheet (f : Framed) : Document :=
  { f.fragment with text := f.frame.opening ++ f.fragment.text ++ Frame.closing }

/-- The position behind the last character of the fragment (`content_end`). -/
def contentEnd (f : Framed) : Position := f.fragment.text.endPosition

end Framed

end CssFragments
