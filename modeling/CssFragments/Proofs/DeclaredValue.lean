import CssFragments.Proofs.Text.Word
import CssFragments.Sheet.Explanation

/-! # The value in a declaration

Behind the name in a declaration stand colons, the value and semicolons, with white space around
each of them. The value is found by taking these away from both ends, one kind after the other.
What is left is the one piece of the text that lies between them.

* `Text.trim_append`: white space around a text is taken away.
* `Sheet.IsValueOf`: how the text behind a name is put together around the value.
* `Sheet.isValueOf_iff`: there is one such value, and it is the one that is found. -/

namespace CssFragments

namespace Text

/-! ## Taking characters away from an end -/

variable {p : Char → Bool} {t u v : Text}

theorem dropWhile_append (hu : ∀ c ∈ u, p c) (hv : ∀ c ∈ v.head?, p c = false) :
    (u ++ v).dropWhile p = v := by
  rw [List.dropWhile_append_of_pos hu]
  cases v with
  | nil => rfl
  | cons c v => exact List.dropWhile_cons_of_neg (by simpa using hv c rfl)

/-- What is left starts with another character. -/
theorem head?_dropWhile (p : Char → Bool) (t : Text) :
    ∀ c ∈ (t.dropWhile p).head?, p c = false := by
  intro c hc
  have hnot := List.head?_dropWhile_not p t
  rw [Option.mem_def.mp hc] at hnot
  exact hnot

/-- What is left ends with another character. -/
theorem getLast?_dropEndWhile (p : Char → Bool) (t : Text) :
    ∀ c ∈ (t.dropEndWhile p).getLast?, p c = false := by
  intro c hc
  rw [dropEndWhile, List.getLast?_reverse] at hc
  exact head?_dropWhile p t.reverse c hc

theorem mem_head?_append {c : Char} :
    c ∈ (u ++ v).head? ↔ c ∈ u.head? ∨ u = [] ∧ c ∈ v.head? := by
  cases u <;> simp

theorem mem_getLast?_append {c : Char} :
    c ∈ (u ++ v).getLast? ↔ c ∈ v.getLast? ∨ v = [] ∧ c ∈ u.getLast? := by
  rcases List.eq_nil_or_concat v with rfl | ⟨v, d, rfl⟩
  · simp
  · simp [← List.append_assoc]

theorem eq_nil_of_head? (hu : ∀ c ∈ u, p c) (hsplit : t = u ++ v)
    (h : ∀ c ∈ t.head?, p c = false) : u = [] := by
  subst hsplit
  cases u with
  | nil => rfl
  | cons c u => exact absurd (hu c List.mem_cons_self) (by simp [h c rfl])

theorem eq_nil_of_getLast? (hv : ∀ c ∈ v, p c) (hsplit : t = u ++ v)
    (h : ∀ c ∈ t.getLast?, p c = false) : v = [] := by
  have hreverse : v.reverse = [] := by
    refine eq_nil_of_head? (by simpa using hv) (congrArg _ hsplit |>.trans List.reverse_append) ?_
    simpa using h
  exact List.reverse_eq_nil_iff.mp hreverse

/-- **White space around a text** is taken away. -/
theorem trim_append {w : Text} (hu : ∀ c ∈ u, isBlank c) (hw : ∀ c ∈ w, isBlank c)
    (hhead : ∀ c ∈ v.head?, isBlank c = false) (hlast : ∀ c ∈ v.getLast?, isBlank c = false) :
    trim (u ++ (v ++ w)) = v := by
  cases v with
  | nil =>
    -- then there is nothing but white space
    have hall : ∀ c ∈ u ++ ([] ++ w), isBlank c := List.forall_mem_append.mpr ⟨hu, hw⟩
    rw [trim, trimStart, List.dropWhile_eq_nil_iff.mpr hall]
    rfl
  | cons c v =>
    have hnil : w.dropEndWhile isBlank = [] := List.rdropWhile_eq_nil_iff.mpr hw
    have hstart : (u ++ (c :: v ++ w)).dropWhile isBlank = c :: v ++ w := dropWhile_append hu hhead
    rw [trim, trimStart, hstart, trimEnd, dropEndWhile_append hlast, hnil, List.append_nil]

/-- There is white space around what is left, and no more of it at its ends. -/
theorem exists_trim (t : Text) :
    ∃ u w, t = u ++ (trim t ++ w) ∧ (∀ c ∈ u, isBlank c) ∧ (∀ c ∈ w, isBlank c) ∧
      (∀ c ∈ (trim t).head?, isBlank c = false) ∧ ∀ c ∈ (trim t).getLast?, isBlank c = false := by
  have hstart := dropEndWhile_append_takeEndWhile t.trimStart isBlank
  refine ⟨t.takeWhile isBlank, t.trimStart.takeEndWhile isBlank, ?_, fun c hc =>
    List.mem_takeWhile_imp hc, (isLongestRun_takeEndWhile isBlank _).all, fun c hc => ?_,
    getLast?_dropEndWhile isBlank _⟩
  · rw [trim, trimEnd, hstart, trimStart, List.takeWhile_append_dropWhile]
  · refine head?_dropWhile isBlank t c ?_
    rw [← trimStart, ← hstart]
    exact mem_head?_append.mpr (.inl hc)

end Text

namespace Sheet

/-- How the text `rest` behind the name in a declaration is put together around `value`: white
space, colons, white space, the value, white space, semicolons and white space. The value has no
white space at its ends. A colon at its start or a semicolon at its end belongs to it only where
white space parts it from the colons before or from the semicolons behind it. Without colons, all
white space before the value is `lead`; without semicolons, or without a value, there is no
`gap'`. -/
structure ValueParts (rest value : Text) where
  /-- White space before the colons. -/
  lead : Text
  colons : Text
  /-- White space before the value. -/
  gap : Text
  /-- White space behind the value. -/
  gap' : Text
  semicolons : Text
  /-- White space behind the semicolons. -/
  trail : Text
  rest_eq : rest = lead ++ (colons ++ (gap ++ (value ++ (gap' ++ (semicolons ++ trail)))))
  lead_blank : ∀ c ∈ lead, isBlank c
  colons_eq : ∀ c ∈ colons, c = ':'
  gap_blank : ∀ c ∈ gap, isBlank c
  gap'_blank : ∀ c ∈ gap', isBlank c
  semicolons_eq : ∀ c ∈ semicolons, c = ';'
  trail_blank : ∀ c ∈ trail, isBlank c
  head_value : ∀ c ∈ value.head?, isBlank c = false ∧ (gap = [] → c ≠ ':')
  last_value : ∀ c ∈ value.getLast?, isBlank c = false ∧ (gap' = [] → c ≠ ';')
  gap_eq_nil : colons = [] → gap = []
  gap'_eq_nil : semicolons = [] ∨ value = [] → gap' = []

/-- The text `rest` behind the name in a declaration gives the property the value `value`. -/
def IsValueOf (rest value : Text) : Prop := Nonempty (ValueParts rest value)

/-! ## What is found -/

section

variable {rest value : Text}

/-- Behind what is found there are semicolons, with white space before them. -/
theorem exists_semicolons {core value : Text} (hhead : ∀ c ∈ core.head?, isBlank c = false)
    (hlast : ∀ c ∈ core.getLast?, isBlank c = false)
    (hvalue : (core.dropEndWhile (· == ';')).trim = value) :
    ∃ gap' semicolons, core = value ++ (gap' ++ semicolons) ∧ (∀ c ∈ gap', isBlank c) ∧
      (∀ c ∈ semicolons, c = ';') ∧
      (∀ c ∈ value.getLast?, isBlank c = false ∧ (gap' = [] → c ≠ ';')) ∧
      (semicolons = [] ∨ value = [] → gap' = []) := by
  let front : Text := core.dropEndWhile (· == ';')
  have hcore : front ++ core.takeEndWhile (· == ';') = core :=
    Text.dropEndWhile_append_takeEndWhile _ _
  obtain ⟨blanks, gap', hfront, hblanks, hgap', -, hvalueLast⟩ := front.exists_trim
  have hfrontHead : ∀ c ∈ front.head?, isBlank c = false := fun c hc =>
    hhead c (hcore ▸ Text.mem_head?_append.mpr (.inl hc))
  -- nothing more is taken away before the value
  obtain rfl : blanks = [] := Text.eq_nil_of_head? hblanks hfront hfrontHead
  rw [List.nil_append, hvalue] at hfront
  rw [hvalue] at hvalueLast
  refine ⟨gap', core.takeEndWhile (· == ';'), ?_, hgap', fun c hc => ?_,
    fun c hc => ⟨hvalueLast c hc, fun hnil => ?_⟩, fun h => ?_⟩
  · rw [← List.append_assoc, ← hfront, hcore]
  · exact eq_of_beq ((Text.isLongestRun_takeEndWhile (· == ';') core).all c hc)
  · rw [hnil, List.append_nil] at hfront
    rw [← hfront] at hc
    exact ne_of_beq_false (Text.getLast?_dropEndWhile (· == ';') core c hc)
  · -- without semicolons, the core itself ends with this white space, and without a value it starts
    -- with it
    rcases h with hnil | hnil
    · rw [hnil, List.append_nil] at hcore
      exact Text.eq_nil_of_getLast? hgap' hfront (hcore ▸ hlast)
    · rw [hnil, List.nil_append, ← List.append_nil gap'] at hfront
      exact Text.eq_nil_of_head? hgap' hfront hfrontHead

/-- What is found lies between such parts: those that are taken away on the way. -/
theorem isValueOf_valuePart (rest : Text) : IsValueOf rest (valuePart rest) := by
  let named : Text := rest.trimStart
  let colons : Text := named.takeWhile (· == ':')
  let behind : Text := named.dropWhile (· == ':')
  obtain ⟨gap, trail, hbehind, hgap, htrail, hhead, hlast⟩ := behind.exists_trim
  obtain ⟨gap', semicolons, hcore, hgap', hsemicolons, hvalueLast, hnil'⟩ :=
    exists_semicolons hhead hlast (show _ = valuePart rest from rfl)
  rw [hcore, List.append_assoc, List.append_assoc] at hbehind
  have hnamed : named =
      colons ++ (gap ++ (valuePart rest ++ (gap' ++ (semicolons ++ trail)))) := by
    rw [← hbehind]
    exact List.takeWhile_append_dropWhile.symm
  exact ⟨{
    lead := rest.takeWhile isBlank, colons, gap, gap', semicolons, trail
    rest_eq := by
      rw [← hnamed]
      exact List.takeWhile_append_dropWhile.symm
    lead_blank := fun c hc => List.mem_takeWhile_imp hc
    colons_eq := fun c hc => by simpa using List.mem_takeWhile_imp hc
    gap_blank := hgap
    gap'_blank := hgap'
    semicolons_eq := hsemicolons
    trail_blank := htrail
    head_value := fun c hc => by
      have hfirst (w : Text) : c ∈ (valuePart rest ++ w).head? :=
        Text.mem_head?_append.mpr (.inl hc)
      refine ⟨hhead c (hcore ▸ hfirst _), fun hnil => ?_⟩
      rw [hnil, List.nil_append] at hbehind
      have hmem : c ∈ behind.head? := hbehind ▸ hfirst _
      exact ne_of_beq_false (Text.head?_dropWhile (· == ':') named c hmem)
    last_value := hvalueLast
    -- without colons, the white space before them would have gone on
    gap_eq_nil := fun hnil => by
      rw [hnil, List.nil_append] at hnamed
      exact Text.eq_nil_of_head? hgap hnamed (Text.head?_dropWhile isBlank rest)
    gap'_eq_nil := hnil' }⟩

namespace ValueParts

variable (parts : ValueParts rest value)

/-- `value ++ gap' ++ semicolons`, which is what is left when the colons are gone. -/
def core : Text := value ++ (parts.gap' ++ parts.semicolons)

/-- Where there is no value, it starts with a semicolon. -/
theorem head_core : ∀ c ∈ parts.core.head?, isBlank c = false ∧ (parts.gap = [] → c ≠ ':') := by
  intro c hc
  rcases Text.mem_head?_append.mp hc with hc | ⟨hvalue, hc⟩
  · exact parts.head_value c hc
  · rw [parts.gap'_eq_nil (.inr hvalue), List.nil_append] at hc
    obtain rfl := parts.semicolons_eq c (List.mem_of_mem_head? hc)
    exact ⟨by decide, fun _ => by decide⟩

/-- Where there is no semicolon, it ends like the value. -/
theorem last_core : ∀ c ∈ parts.core.getLast?, isBlank c = false := by
  intro c hc
  by_cases hsemicolons : parts.semicolons = []
  · rw [core, parts.gap'_eq_nil (.inl hsemicolons), hsemicolons] at hc
    simp only [List.append_nil] at hc
    exact (parts.last_value c hc).1
  · rw [core, ← List.append_assoc] at hc
    rcases Text.mem_getLast?_append.mp hc with hc | ⟨hnil, -⟩
    · obtain rfl := parts.semicolons_eq c (List.mem_of_getLast? hc)
      decide
    · exact absurd hnil hsemicolons

theorem rest_eq_core :
    rest = parts.lead ++ (parts.colons ++ (parts.gap ++ (parts.core ++ parts.trail))) := by
  simpa only [core, List.append_assoc] using parts.rest_eq

/-- What stands behind the colons does not go on with one. -/
theorem head_behind :
    ∀ c ∈ (parts.gap ++ (parts.core ++ parts.trail)).head?, (c == ':') = false := by
  intro c hc
  refine beq_false_of_ne fun hcolon => ?_
  have hblank : ¬ isBlank c := by
    rw [hcolon]
    decide
  rcases Text.mem_head?_append.mp hc with hc | ⟨hgap, hc⟩
  · exact hblank (parts.gap_blank c (List.mem_of_mem_head? hc))
  · rcases Text.mem_head?_append.mp hc with hc | ⟨-, hc⟩
    · exact (parts.head_core c hc).2 hgap hcolon
    · exact hblank (parts.trail_blank c (List.mem_of_mem_head? hc))

/-- White space is taken away up to the colons, or up to the value where there are none. -/
theorem trimStart_rest (h : ¬ (parts.colons = [] ∧ parts.core = [])) :
    rest.trimStart = parts.colons ++ (parts.gap ++ (parts.core ++ parts.trail)) := by
  refine (congrArg _ parts.rest_eq_core).trans
    (Text.dropWhile_append parts.lead_blank fun c hc => ?_)
  rcases Text.mem_head?_append.mp hc with hc | ⟨hcolons, hc⟩
  · obtain rfl := parts.colons_eq c (List.mem_of_mem_head? hc)
    decide
  · rw [parts.gap_eq_nil hcolons, List.nil_append] at hc
    rcases Text.mem_head?_append.mp hc with hc | ⟨hcore, -⟩
    · exact (parts.head_core c hc).1
    · exact absurd ⟨hcolons, hcore⟩ h

/-- The first step takes away the colons, and the white space around what is behind them. -/
theorem trim_dropWhile_trimStart :
    Text.trim (rest.trimStart.dropWhile (· == ':')) = parts.core := by
  by_cases h : parts.colons = [] ∧ parts.core = []
  · -- then there is nothing but white space
    obtain ⟨hcolons, hcore⟩ := h
    have hblank : ∀ c ∈ rest, isBlank c := by
      intro c hc
      rw [parts.rest_eq_core, hcolons, hcore, parts.gap_eq_nil hcolons] at hc
      exact (List.mem_append.mp hc).elim (parts.lead_blank c) (parts.trail_blank c)
    rw [Text.trimStart, List.dropWhile_eq_nil_iff.mpr hblank, hcore]
    rfl
  · have hcolons : ∀ c ∈ parts.colons, c == ':' := fun c hc => beq_of_eq (parts.colons_eq c hc)
    rw [parts.trimStart_rest h, Text.dropWhile_append hcolons parts.head_behind]
    exact Text.trim_append parts.gap_blank parts.trail_blank (fun c hc => (parts.head_core c hc).1)
      parts.last_core

/-- The second step takes away the semicolons. -/
theorem dropEndWhile_core : parts.core.dropEndWhile (· == ';') = value ++ parts.gap' := by
  have hlast : ∀ c ∈ (value ++ parts.gap').getLast?, (c == ';') = false := by
    intro c hc
    refine beq_false_of_ne fun hsemicolon => ?_
    rcases Text.mem_getLast?_append.mp hc with hc | ⟨hnil, hc⟩
    · have hblank := parts.gap'_blank c (List.mem_of_getLast? hc)
      rw [hsemicolon] at hblank
      exact absurd hblank (by decide)
    · exact (parts.last_value c hc).2 hnil hsemicolon
  have hnil : parts.semicolons.dropEndWhile (· == ';') = [] :=
    List.rdropWhile_eq_nil_iff.mpr fun c hc => beq_of_eq (parts.semicolons_eq c hc)
  rw [core, ← List.append_assoc, Text.dropEndWhile_append hlast, hnil, List.append_nil]

/-- The last step takes away the white space before them. -/
theorem trim_value : Text.trim (value ++ parts.gap') = value :=
  Text.trim_append (u := []) (by simp) parts.gap'_blank (fun c hc => (parts.head_value c hc).1)
    fun c hc => (parts.last_value c hc).1

end ValueParts

/-- **The value is the one that is found.** So each text behind a name gives exactly one value. -/
theorem isValueOf_iff : IsValueOf rest value ↔ value = valuePart rest := by
  constructor
  · rintro ⟨parts⟩
    rw [valuePart, parts.trim_dropWhile_trimStart, parts.dropEndWhile_core, parts.trim_value]
  · rintro rfl
    exact isValueOf_valuePart rest

end

end Sheet
end CssFragments
