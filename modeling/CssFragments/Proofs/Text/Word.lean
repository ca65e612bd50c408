import CssFragments.Proofs.Text.Lines
import CssFragments.Text.Letter
import Mathlib.Data.List.DropRight

/-! # The word before a position

The word that ends at a position is the longest run of word characters that does. No line feed is
one of these, so the word starts on the line on which it ends.

* `Text.IsLongestRun`: the longest run of characters of one class at the end of a text.
* `Text.takeEndWhile_append`, `Text.beforeLastWord_append`: a run or a word does not reach into text
  in front of it that ends with another character.
* `Text.endPosition_eq_add_lastWord`: where a word starts, by where it ends and its length.
* `Text.wordRange`: the range of the word before a position.
* `Text.IsWordRange`, `Text.isWordRange_wordRange`: what that range covers. -/

namespace CssFragments

namespace Text

/-! ## Runs at the end of a text -/

/-- The text `t` ends with `w`, a run of characters that satisfy `p`, and with no longer one. -/
structure IsLongestRun (p : Char → Bool) (t w : Text) : Prop where
  isSuffix : w <:+ t
  all : ∀ c ∈ w, p c
  longest : ∀ v : Text, v <:+ t → (∀ c ∈ v, p c) → v.length ≤ w.length

/-- Reading backwards as long as the characters satisfy `p` finds the longest run. -/
theorem isLongestRun_takeEndWhile (p : Char → Bool) (t : Text) :
    IsLongestRun p t (t.takeEndWhile p) where
  isSuffix := List.rtakeWhile_suffix p t
  all _ hc := List.mem_rtakeWhile_imp hc
  longest v hv hall := by
    obtain ⟨u, rfl⟩ := hv
    have hreverse : ∀ c ∈ v.reverse, p c := fun c hc => hall c (List.mem_reverse.mp hc)
    rw [takeEndWhile, List.reverse_append, List.takeWhile_append_of_pos hreverse]
    simp

/-- A run ends at a character that does not satisfy `p`. -/
theorem takeEndWhile_append {p : Char → Bool} {s : Text} (hs : ∀ c ∈ s.getLast?, p c = false)
    (t : Text) : (s ++ t).takeEndWhile p = t.takeEndWhile p := by
  have hnone : s.takeEndWhile p = [] := by
    refine List.rtakeWhile_eq_nil_iff.mpr fun hne => ?_
    rw [hs _ (List.getLast?_eq_some_getLast hne)]
    exact Bool.false_ne_true
  have hstop : s.reverse.takeWhile p = [] := List.reverse_eq_nil_iff.mp hnone
  rw [takeEndWhile, List.reverse_append, List.takeWhile_append, hstop, List.append_nil]
  split
  · next hlength =>
    -- all of `t` is one run, and nothing of `s` is added to it
    rw [takeEndWhile, (List.takeWhile_prefix p).eq_of_length hlength]
  · rfl

/-- What is in front of the run grows with the text in front of it. -/
theorem dropEndWhile_append {p : Char → Bool} {s : Text} (hs : ∀ c ∈ s.getLast?, p c = false)
    (t : Text) : (s ++ t).dropEndWhile p = s ++ t.dropEndWhile p := by
  have h := dropEndWhile_append_takeEndWhile (s ++ t) p
  rw [takeEndWhile_append hs] at h
  refine List.append_cancel_right (h.trans ?_)
  rw [List.append_assoc, dropEndWhile_append_takeEndWhile]

/-! ## Words -/

theorem beforeLastWord_append_lastWord (t : Text) : t.beforeLastWord ++ t.lastWord = t :=
  t.dropEndWhile_append_takeEndWhile isWordChar

theorem beforeLastWord_append {s : Text} (hs : ∀ c ∈ s.getLast?, isWordChar c = false) (t : Text) :
    (s ++ t).beforeLastWord = s ++ t.beforeLastWord := dropEndWhile_append hs t

/-- No line feed is part of a word. -/
theorem newline_notMem_lastWord (t : Text) : '\n' ∉ t.lastWord := by
  intro h
  have hword := (isLongestRun_takeEndWhile isWordChar t).all _ h
  exact absurd hword (by decide)

/-- **A word is on one line.** It starts as many characters before its end as it has. -/
theorem endPosition_eq_add_lastWord (t : Text) :
    t.endPosition = ⟨t.beforeLastWord.endPosition.line,
      t.beforeLastWord.endPosition.character + t.lastWord.length⟩ := by
  have h := t.beforeLastWord.endPosition_append_of_notMem t.newline_notMem_lastWord
  rwa [beforeLastWord_append_lastWord] at h

theorem line_endPosition_beforeLastWord (t : Text) :
    t.beforeLastWord.endPosition.line = t.endPosition.line :=
  (congrArg Position.line t.endPosition_eq_add_lastWord).symm

theorem character_endPosition_beforeLastWord (t : Text) :
    t.beforeLastWord.endPosition.character + t.lastWord.length = t.endPosition.character :=
  (congrArg Position.character t.endPosition_eq_add_lastWord).symm

/-- The last word of a text is not longer than its last line. -/
theorem length_lastWord_le (t : Text) : t.lastWord.length ≤ t.endPosition.character := by
  rw [← t.character_endPosition_beforeLastWord]
  exact Nat.le_add_left _ _

/-! ## The range of a word -/

/-- The range of the word that ends at a position. -/
def wordRange (t : Text) (p : Position) : Range := ⟨(t.upTo p).beforeLastWord.endPosition, p⟩

/-- The range ends at `p`, it starts at a position of the text on the same line, and what it covers
is the longest run of word characters that ends at `p`. -/
structure IsWordRange (t : Text) (p : Position) (r : Range) : Prop where
  stop_eq : r.stop = p
  line_start : r.start.line = p.line
  isPosition_start : t.IsPosition r.start
  covers : ∃ w, t.slice? (t.offsetAt r.start) (t.offsetAt r.stop) = some w ∧
    IsLongestRun isWordChar (t.upTo p) w

/-- **The range of a word** covers the longest run of word characters before the position. -/
theorem isWordRange_wordRange {t : Text} {p : Position} (hp : t.IsPosition p) :
    t.IsWordRange p (t.wordRange p) := by
  obtain ⟨u, v, rfl, rfl⟩ := isPosition_iff.mp hp
  have hupTo : (u ++ v).upTo u.endPosition = u := upTo_append_endPosition u v
  -- the text in front of the word, the word, and the rest
  have hparts : u.beforeLastWord ++ (u.lastWord ++ v) = u ++ v := by
    rw [← List.append_assoc, beforeLastWord_append_lastWord]
  have hstart : (u ++ v).offsetAt u.beforeLastWord.endPosition = u.beforeLastWord.byteSize := by
    rw [← hparts, offsetAt, upTo_append_endPosition]
  rw [wordRange, hupTo]
  refine ⟨rfl, ?_, ?_, u.lastWord, ?_, ?_⟩
  · exact u.line_endPosition_beforeLastWord
  · exact isPosition_iff.mpr ⟨_, _, hparts, rfl⟩
  · rw [slice?_eq_some_iff, hstart, offsetAt, hupTo]
    exact ⟨_, _, hparts, rfl, by rw [beforeLastWord_append_lastWord]⟩
  · rw [hupTo]
    exact isLongestRun_takeEndWhile isWordChar u

end Text

end CssFragments
