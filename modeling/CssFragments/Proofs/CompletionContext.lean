import CssFragments.Proofs.Completion

/-! # What is being typed

What is offered depends on what is being typed, and that is read off the text before the word by
looking backwards: for the opening of a reference, for the last character that ends a declaration or
divides its name and value, and for the word before that. None of these goes back beyond the start
of the current declaration.

* `CompletionContext.isDelimiter`: the characters between declarations.
* `CompletionContext.ofText_append_delimiter`: what is in front of a delimiter does not count.
* `CompletionContext.nameBefore`: the word before a colon.
* `CompletionContext.ofText_append_boundary`, `CompletionContext.ofText_of_forall_not_isBoundary`:
  what is being typed, by the last boundary.
* `CompletionContext.Names`, `CompletionContext.ofText_eq_value_iff`: when a value is being typed,
  and of which property.
* `Sheet.complete_append`: what is offered at the end of a word.
* `CompletionContext.ofText_local`: what is being typed is up to the current declaration alone. -/

namespace CssFragments

/-! ## Characters at the end of a text -/

/-- The code points of the white space beyond the basic Latin block. -/
def wideBlanks : List Nat :=
  [0x85, 0xA0, 0x1680, 0x2000, 0x2001, 0x2002, 0x2003, 0x2004, 0x2005, 0x2006, 0x2007, 0x2008,
    0x2009, 0x200A, 0x2028, 0x2029, 0x202F, 0x205F, 0x3000]

/-- No interval of the table of letters and numbers holds white space. -/
theorem lt_or_lt_of_mem_wideBlanks :
    ∀ r ∈ letterRanges.toList, ∀ n ∈ wideBlanks, n < r.1 ∨ r.2 < n := by
  decide +kernel

/-- No white space is part of a word. -/
theorem isWordChar_of_isBlank {c : Char} (h : isBlank c) : isWordChar c = false := by
  simp only [isBlank, Bool.or_eq_true, Bool.and_eq_true, decide_eq_true_eq, beq_iff_eq] at h
  rcases Nat.lt_or_ge c.toNat 128 with hlt | hge
  · have hall : ∀ n < 128, (9 ≤ n ∧ n ≤ 13) ∨ n = 0x20 → isWordChar (Char.ofNat n) = false := by
      decide
    rw [← c.ofNat_toNat]
    exact hall _ hlt (by omega)
  · -- beyond the basic Latin block, a word has nothing but what is in the table
    have hcode : c.toNat ∈ wideBlanks := by
      simp only [wideBlanks, List.mem_cons, List.not_mem_nil, or_false]
      omega
    have hletter : inRanges letterRanges c.toNat = false := by
      by_contra hin
      obtain ⟨r, hr, hlo, hhi⟩ := inRanges_eq_true_iff.mp (by simpa using hin)
      have hout := lt_or_lt_of_mem_wideBlanks r hr.val _ hcode
      omega
    have hne (e : Char) (he : e.toNat < 128) : c ≠ e := by
      rintro rfl
      exact absurd he (Nat.not_lt.mpr hge)
    simp [isWordChar, isLetterOrNumber, Nat.not_lt.mpr hge, hletter, hne '-' (by decide),
      hne '_' (by decide)]

namespace Text

/-- A text has one longest run. -/
theorem IsLongestRun.eq_takeEndWhile {p : Char → Bool} {t w : Text} (h : IsLongestRun p t w) :
    w = t.takeEndWhile p := by
  have h' := isLongestRun_takeEndWhile p t
  -- both end the text, and neither is longer than the other
  have hlength : w.length = (t.takeEndWhile p).length :=
    le_antisymm (h'.longest w h.isSuffix h.all) (h.longest _ h'.isSuffix h'.all)
  rcases List.suffix_or_suffix_of_suffix h.isSuffix h'.isSuffix with hle | hle
  · exact hle.eq_of_length hlength
  · exact (hle.eq_of_length hlength.symm).symm

/-- A text has a last character that satisfies `p`, or none. -/
theorem exists_last (p : Char → Bool) (t : Text) :
    (∀ c ∈ t, p c = false) ∨
      ∃ (u : Text) (c : Char) (v : Text), t = u ++ c :: v ∧ p c ∧ ∀ e ∈ v, p e = false := by
  induction t using List.reverseRecOn with
  | nil => exact .inl (by simp)
  | append_singleton t c ih =>
    by_cases hc : p c
    · exact .inr ⟨t, c, [], rfl, hc, by simp⟩
    · have hc' : ∀ e ∈ [c], p e = false := by simpa using hc
      rcases ih with hnone | ⟨u, e, v, rfl, he, hv⟩
      · exact .inl (List.forall_mem_append.mpr ⟨hnone, hc'⟩)
      · exact .inr ⟨u, e, v ++ [c], by simp, he, List.forall_mem_append.mpr ⟨hv, hc'⟩⟩

/-- A text without the character `d` does not end a text any further back than up to a `d`. -/
theorem isSuffix_append_cons_iff {w : Text} {d : Char} (hd : d ∉ w) (x y : Text) :
    w <:+ x ++ d :: y ↔ w <:+ y := by
  constructor
  · intro h
    rcases List.suffix_or_suffix_of_suffix h (List.suffix_append x (d :: y)) with hw | hw
    · rcases List.suffix_cons_iff.mp hw with rfl | hw
      · exact absurd List.mem_cons_self hd
      · exact hw
    · exact absurd (hw.mem List.mem_cons_self) hd
  · intro h
    exact (h.trans (List.suffix_cons d y)).trans (List.suffix_append x _)

end Text

namespace CompletionContext

/-! ## Delimiters -/

/-- The characters between declarations: what opens and closes a block, and what ends one of its
declarations. -/
def isDelimiter (c : Char) : Bool := c == '\x7b' || c == '\x7d' || c == ';'

theorem isDelimiter_iff {c : Char} : isDelimiter c ↔ c = '\x7b' ∨ c = '\x7d' ∨ c = ';' := by
  simp [isDelimiter, or_assoc]

/-- The boundaries are the delimiters and the colon. -/
theorem isBoundary_iff {c : Char} : isBoundary c ↔ isDelimiter c ∨ c = ':' := by
  simp [isBoundary, isDelimiter, or_assoc]

/-- A delimiter is nothing that is looked for behind the start of a declaration. -/
theorem of_isDelimiter {d : Char} (hd : isDelimiter d) :
    d ≠ ':' ∧ d ∉ referenceOpening ∧ isBlank d = false ∧ isWordChar d = false := by
  rcases isDelimiter_iff.mp hd with rfl | rfl | rfl <;> decide

/-! ## The last boundary -/

/-- The word before a colon; white space may stand between them. -/
def nameBefore (t : Text) : Text := t.trimEnd.lastWord

/-- The word before a colon does not reach beyond a delimiter. -/
theorem nameBefore_append_delimiter (x : Text) {d : Char} (hd : isDelimiter d) (y : Text) :
    nameBefore (x ++ d :: y) = nameBefore y := by
  obtain ⟨-, -, hblank, hword⟩ := of_isDelimiter hd
  -- the delimiter stops both the search for the end of the white space and that for the word
  have hlast : ∀ c ∈ (x ++ [d]).getLast?, c = d := by simp
  have hsplit : x ++ d :: y = (x ++ [d]) ++ y := by simp
  rw [nameBefore, hsplit, Text.trimEnd, Text.dropEndWhile_append fun c hc => hlast c hc ▸ hblank,
    Text.lastWord, Text.takeEndWhile_append fun c hc => hlast c hc ▸ hword]
  rfl

/-- What is being typed after a text, if its last boundary is the character `c`. -/
theorem ofText_append_boundary {h v : Text} {c : Char} (hc : isBoundary c)
    (hv : ∀ e ∈ v, isBoundary e = false) :
    ofText (h ++ c :: v) =
      if referenceOpening <:+ h ++ c :: v then .reference
      else if c = ':' ∧ nameBefore h ≠ [] then .value (nameBefore h).toLower
      else .property := by
  have hhead : (h ++ c :: v).dropEndWhile (! isBoundary ·) = h ++ [c] := by
    have hsplit : h ++ c :: v = (h ++ [c]) ++ v := by simp
    have hdrop : v.dropEndWhile (! isBoundary ·) = [] :=
      List.rdropWhile_eq_nil_iff.mpr fun e he => by simp [hv e he]
    rw [hsplit, Text.dropEndWhile_append (by simp [hc]), hdrop, List.append_nil]
  simp only [ofText, List.isSuffixOf_iff_suffix, hhead, List.getLast?_concat, List.dropLast_concat]
  congr 1
  by_cases hcolon : c = ':'
  · subst hcolon
    by_cases hname : (Text.trimEnd h).lastWord = [] <;> simp [nameBefore, hname]
  · simp [hcolon]

/-- Without a boundary, no value is being typed. -/
theorem ofText_of_forall_not_isBoundary {t : Text} (ht : ∀ c ∈ t, isBoundary c = false) :
    ofText t = if referenceOpening <:+ t then .reference else .property := by
  have hhead : t.dropEndWhile (! isBoundary ·) = [] :=
    List.rdropWhile_eq_nil_iff.mpr fun c hc => by simp [ht c hc]
  simp [ofText, List.isSuffixOf_iff_suffix, hhead]

/-- **The current declaration.** What is in front of a delimiter does not count. -/
theorem ofText_append_delimiter (x : Text) {d : Char} (hd : isDelimiter d) (y : Text) :
    ofText (x ++ d :: y) = ofText y := by
  obtain ⟨hcolon, hopening, -, -⟩ := of_isDelimiter hd
  have hsuffix := Text.isSuffix_append_cons_iff hopening x y
  rcases Text.exists_last isBoundary y with hy | ⟨h, c, v, rfl, hc, hv⟩
  · -- the delimiter is the last boundary
    rw [ofText_append_boundary (isBoundary_iff.mpr (.inl hd)) hy,
      ofText_of_forall_not_isBoundary hy]
    simp only [hsuffix, hcolon, false_and, if_false]
  · -- the last boundary is the same for both, and so is the word before it
    have hassoc : x ++ d :: (h ++ c :: v) = (x ++ d :: h) ++ c :: v := by simp
    rw [hassoc] at hsuffix ⊢
    rw [ofText_append_boundary hc hv, ofText_append_boundary hc hv,
      nameBefore_append_delimiter x hd h]
    simp only [hsuffix]

/-! ## Values -/

/-- A reference is being typed right behind its opening. -/
theorem ofText_eq_reference_iff {t : Text} : ofText t = .reference ↔ referenceOpening <:+ t := by
  rcases Text.exists_last isBoundary t with ht | ⟨h, c, v, rfl, hc, hv⟩
  · rw [ofText_of_forall_not_isBoundary ht]
    split <;> simp_all
  · rw [ofText_append_boundary hc hv]
    split
    · simp_all
    · split <;> simp_all

/-- A value is being typed if the last boundary is a colon with a word before it, and no reference
was just opened. -/
theorem ofText_eq_value_iff_of_boundary {t n : Text} :
    ofText t = .value n ↔
      ¬ referenceOpening <:+ t ∧ ∃ h v : Text, t = h ++ ':' :: v ∧
        (∀ e ∈ v, isBoundary e = false) ∧ nameBefore h ≠ [] ∧ n = (nameBefore h).toLower := by
  constructor
  · intro hvalue
    rcases Text.exists_last isBoundary t with hnone | ⟨h, c, v, rfl, hc, hv⟩
    · rw [ofText_of_forall_not_isBoundary hnone] at hvalue
      split at hvalue <;> cases hvalue
    · rw [ofText_append_boundary hc hv] at hvalue
      split at hvalue
      · cases hvalue
      · next hreference =>
        split at hvalue
        · next hname =>
          obtain ⟨rfl, hne⟩ := hname
          cases hvalue
          exact ⟨hreference, h, v, rfl, hv, hne, rfl⟩
        · cases hvalue
  · rintro ⟨hreference, h, v, rfl, hv, hne, rfl⟩
    rw [ofText_append_boundary (by decide) hv, if_neg hreference, if_pos ⟨rfl, hne⟩]

/-- The name before the last colon of the declaration in which a text ends: all the word characters
there, with nothing but white space between them and the colon. The declaration starts behind the
last delimiter, or with the text if there is none. -/
def Names (before name : Text) : Prop :=
  ∃ declaration u blanks value : Text,
    Text.IsLongestRun (! isDelimiter ·) before declaration ∧
      declaration = u ++ blanks ++ ':' :: value ∧ ':' ∉ value ∧ (∀ c ∈ blanks, isBlank c) ∧
      Text.IsLongestRun isWordChar u name

/-- What is being typed is up to the declaration in which a text ends. -/
theorem ofText_declaration (t : Text) : ofText (t.takeEndWhile (! isDelimiter ·)) = ofText t := by
  rcases Text.exists_last isDelimiter t with ht | ⟨x, d, y, rfl, hd, hy⟩
  · have hall : t.takeEndWhile (! isDelimiter ·) = t :=
      List.rtakeWhile_eq_self_iff.mpr fun c hc => by simp [ht c hc]
    rw [hall]
  · have hall : y.takeEndWhile (! isDelimiter ·) = y :=
      List.rtakeWhile_eq_self_iff.mpr fun c hc => by simp [hy c hc]
    have hsplit : x ++ d :: y = (x ++ [d]) ++ y := by simp
    have hrun : (x ++ d :: y).takeEndWhile (! isDelimiter ·) = y := by
      rw [hsplit, Text.takeEndWhile_append (by simp [hd]), hall]
    rw [hrun, ofText_append_delimiter x hd]

/-- The word before a colon is found behind the white space. -/
theorem nameBefore_append_blanks {u blanks name : Text} (hblanks : ∀ c ∈ blanks, isBlank c)
    (hname : Text.IsLongestRun isWordChar u name) (hne : name ≠ []) :
    nameBefore (u ++ blanks) = name := by
  have hlast : ∀ c ∈ u.getLast?, isBlank c = false := by
    intro c hc
    -- the text ends with the word, which does not end with white space
    obtain ⟨w, rfl⟩ := hname.isSuffix
    rw [List.getLast?_append_of_ne_nil w hne] at hc
    have hword := hname.all c (List.mem_of_getLast? hc)
    by_contra hblank
    rw [isWordChar_of_isBlank (by simpa using hblank)] at hword
    exact absurd hword (by decide)
  have hdrop : blanks.dropEndWhile isBlank = [] := List.rdropWhile_eq_nil_iff.mpr hblanks
  rw [nameBefore, Text.trimEnd, Text.dropEndWhile_append hlast, hdrop, List.append_nil]
  exact hname.eq_takeEndWhile.symm

/-- **A value is being typed** behind the last colon of a declaration if a name stands before it,
and no reference was just opened. -/
theorem ofText_eq_value_iff {before n : Text} :
    ofText before = .value n ↔
      ¬ referenceOpening <:+ before ∧ ∃ name, Names before name ∧ name ≠ [] ∧ n = name.toLower := by
  -- in the declaration there is no other boundary than the colon
  have hrun := Text.isLongestRun_takeEndWhile (! isDelimiter ·) before
  have hcontext := ofText_declaration before
  rw [← ofText_eq_reference_iff, ← hcontext, ofText_eq_reference_iff,
    ofText_eq_value_iff_of_boundary]
  refine and_congr_right fun _ => ?_
  constructor
  · rintro ⟨h, v, heq, hv, hne, rfl⟩
    refine ⟨nameBefore h, ⟨_, h.trimEnd, h.takeEndWhile isBlank, v, hrun, ?_, ?_, ?_, ?_⟩, hne, rfl⟩
    · rw [heq, Text.trimEnd, Text.dropEndWhile_append_takeEndWhile]
    · intro hmem
      exact absurd (hv _ hmem) (by decide)
    · exact (Text.isLongestRun_takeEndWhile isBlank h).all
    · exact Text.isLongestRun_takeEndWhile isWordChar h.trimEnd
  · rintro ⟨name, ⟨declaration, u, blanks, v, hlongest, heq, hcolon, hblanks, hword⟩, hne, rfl⟩
    obtain rfl := hlongest.eq_takeEndWhile
    have hname := nameBefore_append_blanks hblanks hword hne
    refine ⟨u ++ blanks, v, heq, fun e he => ?_, hname ▸ hne, by rw [hname]⟩
    by_contra hboundary
    rcases isBoundary_iff.mp (by simpa using hboundary) with hd | rfl
    · have hdelimiter := hlongest.all e (by simp [heq, he])
      simp [hd] at hdelimiter
    · exact hcolon he

end CompletionContext

namespace Sheet

/-- **At the end of a word,** what is offered is up to the text before the word. Neither the word
nor the text behind it has a say in what is being typed. -/
theorem complete_append {s : Sheet} {u w v : Text} (hs : s.text = u ++ (w ++ v))
    (hw : ∀ c ∈ w, isWordChar c) (hu : ∀ c ∈ u.getLast?, isWordChar c = false) :
    s.complete (u ++ w).endPosition =
      .ok ⟨false, s.itemsFor ⟨u.endPosition, (u ++ w).endPosition⟩ (.ofText u)⟩ := by
  have hs' : s.text = (u ++ w) ++ v := by rw [hs, List.append_assoc]
  have hp : s.text.IsPosition (u ++ w).endPosition :=
    Text.isPosition_iff.mpr ⟨u ++ w, v, hs'.symm, rfl⟩
  have hupTo : s.text.upTo (u ++ w).endPosition = u ++ w := by
    rw [hs', Text.upTo_append_endPosition]
  have hdrop : w.beforeLastWord = [] := List.rdropWhile_eq_nil_iff.mpr hw
  have hbefore : (u ++ w).beforeLastWord = u := by
    rw [Text.beforeLastWord_append hu, hdrop, List.append_nil]
  rw [complete_of_isPosition hp, Text.wordRange, hupTo, hbefore]

end Sheet

namespace CompletionContext

/-- **What is being typed is up to the current declaration.** What is in front of a delimiter does
not count. At the end of a word, what is offered is for what is being typed behind the text before
the word, whatever the word and the text behind it are. A value is being typed if and only if no
reference was just opened and the last colon behind the last delimiter, or behind the start of the
text, has a name before it, and its property is that name in lower case. -/
theorem ofText_local :
    (∀ (x y : Text) (d : Char), isDelimiter d → ofText (x ++ d :: y) = ofText (d :: y)) ∧
    (∀ (s : Sheet) (u w v : Text), s.text = u ++ (w ++ v) → (∀ c ∈ w, isWordChar c) →
      (∀ c ∈ u.getLast?, isWordChar c = false) →
      s.complete (u ++ w).endPosition =
        .ok ⟨false, s.itemsFor ⟨u.endPosition, (u ++ w).endPosition⟩ (ofText u)⟩) ∧
    (∀ before n : Text, ofText before = .value n ↔
      ¬ referenceOpening <:+ before ∧
        ∃ name, Names before name ∧ name ≠ [] ∧ n = name.toLower) := by
  refine ⟨fun x y d hd => ?_, fun s u w v hs hw hu => Sheet.complete_append hs hw hu,
    fun before n => ofText_eq_value_iff⟩
  -- on both sides only what follows the delimiter counts
  calc ofText (x ++ d :: y) = ofText y := ofText_append_delimiter x hd y
    _ = ofText (d :: y) := (ofText_append_delimiter [] hd y).symm

/-- Behind a declaration that is complete, a name in mixed case with white space around it; and a
value that is only a letter so far. -/
theorem ofText_local_sample :
    isDelimiter ';' ∧
      ofText "a\x7bcolor:red; Top :\n".toList = ofText "; Top :\n".toList ∧
      Sheet.declarationSample.text = ['x', ':'] ++ (['y'] ++ []) ∧
      Sheet.declarationSample.complete ⟨0, 3⟩ =
        .ok ⟨false, Sheet.declarationSample.itemsFor ⟨⟨0, 2⟩, ⟨0, 3⟩⟩ (ofText ['x', ':'])⟩ ∧
      ofText "; Top :\n".toList = .value ['t', 'o', 'p'] ∧
      ∃ name, Names "; Top :\n".toList name ∧ name ≠ [] ∧ ['t', 'o', 'p'] = name.toLower := by
  obtain ⟨hlocal, hcomplete, hvalue⟩ := ofText_local
  have hd : isDelimiter ';' := by decide
  have htext : Sheet.declarationSample.text = ['x', ':'] ++ (['y'] ++ []) := by decide
  have hy : isWordChar 'y' := by decide
  have hcolon : isWordChar ':' = false := by decide
  have htop : ofText "; Top :\n".toList = .value ['t', 'o', 'p'] := by decide
  exact ⟨hd, hlocal "a\x7bcolor:red".toList " Top :\n".toList ';' hd, htext,
    hcomplete _ _ _ _ htext (by simpa using hy) (by simpa using hcolon), htop,
    ((hvalue _ _).mp htop).2⟩

end CompletionContext

end CssFragments
