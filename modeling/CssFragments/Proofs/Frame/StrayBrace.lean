import CssFragments.Frame.StrayBrace
import Mathlib.Data.List.Chain

/-! # Stray braces and the pieces of a text

CSS reads a text from left to right as comments, texts in quotes and characters outside of both. A
stray brace is a closing brace outside of both before which as many blocks were closed as opened.
The scan for it looks back one character only. This is enough to tell the pieces of most texts
apart. It is not enough if a comment is followed by an asterisk, which then seems to begin another
comment together with the slash that ends the first one, nor if a backslash in quotes is itself
escaped, or escapes a line feed.

* `Lexeme`, `Text.lexemes`: the pieces of a text.
* `Lexeme.StrayIn`: a stray brace among pieces; `Lexeme.stray?` finds the first one.
* `Lexeme.Legible`: pieces that can be told apart by looking back one character.
* `BraceScan.find?_comment`, `BraceScan.find?_quoted`, `BraceScan.find?_code`: how the scan gets
  over a piece, and over all of them.
* `Text.strayBrace?_of_legible`: what the scan finds in legible texts;
  `Text.strayBrace?_misread`: what it finds in others. -/

namespace CssFragments

/-! ## The pieces of a text -/

/-- A piece of a text, as CSS reads it. -/
inductive Lexeme where
  /-- A character outside comments and quotes. -/
  | mark (c : Char)
  /-- A comment with its delimiters; the last one is missing if the text ends before. -/
  | comment (text : Text)
  /-- A text in quotes, given by its first quote and by what follows that. It is ended by the same
  quote, by a line feed or with the text. -/
  | quoted (quote : Char) (body : Text) (ending : Option Char)
deriving DecidableEq

namespace Text

/-- A text divided behind the first end of a comment. -/
def splitComment : Text → Text × Text
  | [] => ([], [])
  | '*' :: '/' :: t => (['*', '/'], t)
  | c :: t => (c :: (splitComment t).1, (splitComment t).2)

/-- A text divided before the first quote or line feed that is not escaped. A backslash escapes
the character behind it, and is then no more than that. -/
def splitQuoted (quote : Char) : Text → Text × Text
  | [] => ([], [])
  | '\\' :: c :: t => ('\\' :: c :: (splitQuoted quote t).1, (splitQuoted quote t).2)
  | c :: t =>
    if c = quote ∨ c = '\n' then ([], c :: t)
    else (c :: (splitQuoted quote t).1, (splitQuoted quote t).2)

theorem splitComment_append (t : Text) : (splitComment t).1 ++ (splitComment t).2 = t := by
  fun_induction splitComment t <;> simp_all

theorem splitQuoted_append (quote : Char) (t : Text) :
    (splitQuoted quote t).1 ++ (splitQuoted quote t).2 = t := by
  fun_induction splitQuoted quote t <;> simp_all

theorem length_splitComment_le (t : Text) : (splitComment t).2.length ≤ t.length := by
  have h := congrArg List.length (splitComment_append t)
  rw [List.length_append] at h
  omega

theorem length_splitQuoted_le (quote : Char) (t : Text) :
    (splitQuoted quote t).2.tail.length ≤ t.length := by
  have h := congrArg List.length (splitQuoted_append quote t)
  rw [List.length_append] at h
  rw [List.length_tail]
  omega

/-- The pieces of a text, from left to right. -/
def lexemes : Text → List Lexeme
  | [] => []
  | '/' :: '*' :: t => .comment ('/' :: '*' :: (splitComment t).1) :: lexemes (splitComment t).2
  | c :: t =>
    if c = '"' ∨ c = '\'' then
      .quoted c (splitQuoted c t).1 (splitQuoted c t).2.head? :: lexemes (splitQuoted c t).2.tail
    else .mark c :: lexemes t
termination_by t => t.length
decreasing_by
  all_goals simp only [List.length_cons]
  · have h := length_splitComment_le t
    omega
  · have h := length_splitQuoted_le c t
    omega
  · omega

/-- An asterisk begins no comment. -/
theorem lexemes_asterisk (t : Text) : lexemes ('*' :: t) = .mark '*' :: lexemes t := by
  rw [lexemes]
  · rfl
  · simp

end Text

namespace Lexeme

/-- The text of a piece. -/
def text : Lexeme → Text
  | mark c => [c]
  | comment t => t
  | quoted quote body ending => quote :: (body ++ ending.toList)

/-- Whether a piece is a comment. -/
def isComment : Lexeme → Bool
  | comment _ => true
  | _ => false

/-- The pieces of a text make up the text. -/
theorem flatMap_text_lexemes (t : Text) : t.lexemes.flatMap text = t := by
  fun_induction Text.lexemes t with
  | case1 => rfl
  | case2 t ih =>
    rw [List.flatMap_cons, ih]
    simp [text, Text.splitComment_append]
  | case3 c t _ _ ih =>
    rw [List.flatMap_cons, ih]
    have h := Text.splitQuoted_append c t
    cases hrest : (Text.splitQuoted c t).2 <;> simp_all [text]
  | case4 c t _ _ ih =>
    rw [List.flatMap_cons, ih]
    rfl

/-! ### Stray braces -/

/-- How many blocks are open behind a piece, if there are `depth` before it. -/
def depthBehind (depth : Nat) (l : Lexeme) : Nat :=
  if l = mark '\x7b' then depth + 1 else if l = mark '\x7d' then depth - 1 else depth

/-- The pieces end in a closing brace, before which as many blocks were closed as there were open at
the start or opened since. -/
structure StrayIn (depth : Nat) (ls before after : List Lexeme) : Prop where
  eq_append : ls = before ++ mark '\x7d' :: after
  count_eq : before.count (mark '\x7d') = depth + before.count (mark '\x7b')

/-- A piece before others, if it is not itself stray. -/
theorem strayIn_cons_iff {depth : Nat} {l : Lexeme} {ls before after : List Lexeme}
    (h : ¬ (l = mark '\x7d' ∧ depth = 0)) :
    StrayIn depth (l :: ls) before after ↔
      ∃ before', before = l :: before' ∧ StrayIn (l.depthBehind depth) ls before' after := by
  have hcount (ls : List Lexeme) :
      (l :: ls).count (mark '\x7d') = depth + (l :: ls).count (mark '\x7b') ↔
        ls.count (mark '\x7d') = l.depthBehind depth + ls.count (mark '\x7b') := by
    rw [List.count_cons, List.count_cons, depthBehind]
    by_cases hopen : l = mark '\x7b'
    · simp [hopen]
      omega
    · by_cases hclose : l = mark '\x7d'
      · have hdepth : depth ≠ 0 := fun hzero => h ⟨hclose, hzero⟩
        simp [hclose]
        omega
      · simp [hopen, hclose]
  constructor
  · rintro ⟨happend, heq⟩
    rcases List.cons_eq_append_iff.mp happend with ⟨rfl, hnil⟩ | ⟨before', rfl, hrest⟩
    · obtain ⟨rfl, -⟩ := List.cons_eq_cons.mp hnil
      have hzero : depth = 0 := by simpa using heq.symm
      exact absurd ⟨rfl, hzero⟩ h
    · exact ⟨before', rfl, hrest, (hcount before').mp heq⟩
  · rintro ⟨before', rfl, rfl, heq⟩
    exact ⟨rfl, (hcount before').mpr heq⟩

/-- The position of the first stray brace among pieces. -/
def stray? (depth : Nat) (p : Position) : List Lexeme → Option Position
  | [] => none
  | l :: ls =>
    if l = mark '\x7d' ∧ depth = 0 then some p
    else stray? (l.depthBehind depth) (l.text.positionFrom p) ls

/-- Nothing is stray among no pieces. -/
theorem not_strayIn_nil (depth : Nat) (before after : List Lexeme) :
    ¬ StrayIn depth [] before after := by
  rintro ⟨happend, -⟩
  simp at happend

theorem strayIn_zero_cons (ls : List Lexeme) : StrayIn 0 (mark '\x7d' :: ls) [] ls := ⟨rfl, rfl⟩

theorem stray?_eq_none_iff {depth : Nat} {p : Position} {ls : List Lexeme} :
    stray? depth p ls = none ↔ ∀ before after, ¬ StrayIn depth ls before after := by
  induction ls generalizing depth p with
  | nil => exact iff_of_true rfl (not_strayIn_nil depth)
  | cons l ls ih =>
    rw [stray?]
    split
    · next h =>
      obtain ⟨rfl, rfl⟩ := h
      exact iff_of_false (by simp) fun hnone => hnone [] ls (strayIn_zero_cons ls)
    · next h =>
      rw [ih]
      constructor
      · intro hnone before after hstray
        obtain ⟨before', rfl, hrest⟩ := (strayIn_cons_iff h).mp hstray
        exact hnone before' after hrest
      · intro hnone before after hstray
        exact hnone (l :: before) after ((strayIn_cons_iff h).mpr ⟨before, rfl, hstray⟩)

/-- What the search finds is the first stray brace. -/
theorem stray?_eq_some_iff {depth : Nat} {p q : Position} {ls : List Lexeme} :
    stray? depth p ls = some q ↔ ∃ before after, StrayIn depth ls before after ∧
      (∀ before' after', StrayIn depth ls before' after' → before.length ≤ before'.length) ∧
      q = Text.positionFrom p (before.flatMap text) := by
  induction ls generalizing depth p with
  | nil =>
    refine iff_of_false (by simp [stray?]) ?_
    rintro ⟨before, after, hstray, -⟩
    exact not_strayIn_nil depth before after hstray
  | cons l ls ih =>
    rw [stray?]
    split
    · next h =>
      obtain ⟨rfl, rfl⟩ := h
      constructor
      · intro hq
        exact ⟨[], ls, strayIn_zero_cons ls, fun _ _ _ => Nat.zero_le _, (Option.some.inj hq).symm⟩
      · -- nothing stands before the first one
        rintro ⟨before, after, -, hfirst, rfl⟩
        have hlength : before.length ≤ 0 := hfirst [] ls (strayIn_zero_cons ls)
        rw [List.length_eq_zero_iff.mp (Nat.le_zero.mp hlength)]
        rfl
    · next h =>
      rw [ih]
      constructor
      · rintro ⟨before, after, hstray, hfirst, rfl⟩
        refine ⟨l :: before, after, (strayIn_cons_iff h).mpr ⟨before, rfl, hstray⟩, ?_, ?_⟩
        · intro before' after' hstray'
          obtain ⟨rest, rfl, hrest⟩ := (strayIn_cons_iff h).mp hstray'
          exact Nat.succ_le_succ (hfirst rest after' hrest)
        · rw [List.flatMap_cons, Text.positionFrom_append]
      · rintro ⟨before, after, hstray, hfirst, rfl⟩
        obtain ⟨rest, rfl, hrest⟩ := (strayIn_cons_iff h).mp hstray
        refine ⟨rest, after, hrest, ?_, ?_⟩
        · intro before' after' hstray'
          exact Nat.le_of_succ_le_succ
            (hfirst (l :: before') after' ((strayIn_cons_iff h).mpr ⟨before', rfl, hstray'⟩))
        · rw [List.flatMap_cons, Text.positionFrom_append]

/-! ### Pieces that can be told apart -/

/-- The end of a text in quotes can be told from the character before it: no line feed in it is
escaped, and the quote that ends it is not behind a backslash, which would be an escaped one. -/
def Plain : Lexeme → Prop
  | quoted quote body ending =>
    '\n' ∉ body ∧ (ending = some quote → body.getLast? ≠ some '\\')
  | _ => True

instance : DecidablePred Plain
  | mark _ => inferInstanceAs (Decidable True)
  | comment _ => inferInstanceAs (Decidable True)
  | quoted quote body ending =>
    inferInstanceAs (Decidable ('\n' ∉ body ∧ (ending = some quote → body.getLast? ≠ some '\\')))

/-- All pieces can be told from their neighbours by looking back one character: those in quotes are
plain, and no comment has an asterisk behind it. -/
structure Legible (ls : List Lexeme) : Prop where
  plain : ∀ l ∈ ls, l.Plain
  apart : ls.IsChain fun a b => a.isComment → b ≠ mark '*'

theorem Legible.tail {l : Lexeme} {ls : List Lexeme} (h : Legible (l :: ls)) : Legible ls :=
  ⟨fun m hm => h.plain m (List.mem_cons_of_mem _ hm), h.apart.tail⟩

end Lexeme

/-! ## The scan -/

namespace BraceScan

variable {depth : Nat} {last : Option Char} {quote c : Char}

/-- Inside a comment, only a slash behind an asterisk is more than a character. -/
theorem step_comment_of_not (h : ¬ (c = '/' ∧ last = some '*')) :
    step ⟨.comment, depth, last⟩ c = some ⟨.comment, depth, some c⟩ := if_neg h

/-- In quotes, only a line feed and a quote without a backslash before it are more than
characters. -/
theorem step_quoted_of_not (h : ¬ ((c = quote ∧ last ≠ some '\\') ∨ c = '\n')) :
    step ⟨.quoted quote, depth, last⟩ c = some ⟨.quoted quote, depth, some c⟩ := if_neg h

theorem step_quoted_of (h : (c = quote ∧ last ≠ some '\\') ∨ c = '\n') :
    step ⟨.quoted quote, depth, last⟩ c = some ⟨.code, depth, some c⟩ := if_pos h

theorem find?_cons_of_step {s s' : State} (h : step s c = some s') (p : Position) (t : Text) :
    find? s p (c :: t) = find? s' (p.advance c) t := by
  rw [find?, h]

/-- The scan leaves a comment where it ends. -/
theorem find?_comment (depth : Nat) (last : Option Char) (p : Position) (t : Text)
    (h : last = some '*' → t.head? ≠ some '/') :
    find? ⟨.comment, depth, last⟩ p t =
      find? ⟨.code, depth, some '/'⟩ (t.splitComment.1.positionFrom p) t.splitComment.2 := by
  fun_induction Text.splitComment t generalizing last p with
  | case1 => rfl
  | case2 t =>
    have hend : step ⟨.comment, depth, some '*'⟩ '/' = some ⟨.code, depth, some '/'⟩ := rfl
    rw [find?_cons_of_step (step_comment_of_not (by simp)), find?_cons_of_step hend]
    rfl
  | case3 c t hc ih =>
    have hstep : ¬ (c = '/' ∧ last = some '*') := by
      rintro ⟨rfl, hlast⟩
      exact h hlast rfl
    have hnext : some c = some '*' → t.head? ≠ some '/' := by
      intro hstar hslash
      obtain ⟨t', rfl⟩ := List.head?_eq_some_iff.mp hslash
      exact hc t' (Option.some.inj hstar) rfl
    rw [find?_cons_of_step (step_comment_of_not hstep), ih (some c) (p.advance c) hnext]
    rfl

/-- A text in quotes is ended by its quote or by a line feed. -/
theorem eq_of_head?_splitQuoted {quote c : Char} {t : Text}
    (h : (t.splitQuoted quote).2.head? = some c) : c = quote ∨ c = '\n' := by
  fun_induction Text.splitQuoted quote t with
  | case1 => cases h
  | case2 c t ih => exact ih h
  | case3 c t _ hc =>
    obtain rfl := Option.some.inj h
    exact hc
  | case4 c t _ _ ih => exact ih h

/-- The scan leaves a text in quotes where it ends, if no line feed in it is escaped and no
backslash stands before the quote that ends it. -/
theorem find?_quoted (hquote : quote ≠ '\\') (depth : Nat) (last : Option Char)
    (p : Position) (t : Text) (hnewline : '\n' ∉ (t.splitQuoted quote).1)
    (h : (t.splitQuoted quote).2.head? = some quote →
      (t.splitQuoted quote).1.getLast?.or last ≠ some '\\') :
    find? ⟨.quoted quote, depth, last⟩ p t =
      find? ⟨.code, depth, (t.splitQuoted quote).2.head?⟩
        (Text.positionFrom p
          ((t.splitQuoted quote).1 ++ (t.splitQuoted quote).2.head?.toList))
        (t.splitQuoted quote).2.tail := by
  fun_induction Text.splitQuoted quote t generalizing last p with
  | case1 => rfl
  | case2 c t ih =>
    have hc : c ≠ '\n' := by
      rintro rfl
      simp at hnewline
    have hback : ¬ (('\\' = quote ∧ last ≠ some '\\') ∨ '\\' = '\n') := by
      rintro (⟨hquoted, -⟩ | hnewline')
      · exact hquote hquoted.symm
      · exact absurd hnewline' (by decide)
    have hescaped : ¬ ((c = quote ∧ some '\\' ≠ some '\\') ∨ c = '\n') := by
      simp [hc]
    rw [find?_cons_of_step (step_quoted_of_not hback),
      find?_cons_of_step (step_quoted_of_not hescaped), ih]
    · rfl
    · exact fun hmem => hnewline (by simp [hmem])
    · simpa [List.getLast?_cons, Option.or_some] using h
  | case3 c t _ hc =>
    have hstep : (c = quote ∧ last ≠ some '\\') ∨ c = '\n' := by
      rcases hc with rfl | rfl
      · exact .inl ⟨rfl, by simpa using h⟩
      · exact .inr rfl
    rw [find?_cons_of_step (step_quoted_of hstep)]
    rfl
  | case4 c t _ hc ih =>
    have hstep : ¬ ((c = quote ∧ last ≠ some '\\') ∨ c = '\n') := fun h => hc (h.imp_left And.left)
    rw [find?_cons_of_step (step_quoted_of_not hstep), ih]
    · rfl
    · exact fun hmem => hnewline (by simp [hmem])
    · simpa [List.getLast?_cons, Option.or_some] using h

/-- Outside comments and quotes, a character that begins neither is counted. -/
theorem step_code (hstar : ¬ (c = '*' ∧ last = some '/')) (hquote : ¬ (c = '"' ∨ c = '\'')) :
    step ⟨.code, depth, last⟩ c =
      if Lexeme.mark c = .mark '\x7d' ∧ depth = 0 then none
      else some ⟨.code, (Lexeme.mark c).depthBehind depth, some c⟩ := by
  simp only [step, if_neg hstar, if_neg hquote, Lexeme.depthBehind, Lexeme.mark.injEq]
  grind

/-- **The scan reads legible texts piece by piece.** -/
theorem find?_code (depth : Nat) (last : Option Char) (p : Position) (t : Text)
    (hlast : last = some '/' → t.head? ≠ some '*') (h : Lexeme.Legible t.lexemes) :
    find? ⟨.code, depth, last⟩ p t = Lexeme.stray? depth p t.lexemes := by
  fun_induction Text.lexemes t generalizing depth last p with
  | case1 => rfl
  | case2 t ih =>
    have hslash : step ⟨.code, depth, last⟩ '/' = some ⟨.code, depth, some '/'⟩ :=
      step_code (by simp) (by simp)
    have hopen : step ⟨.code, depth, some '/'⟩ '*' = some ⟨.comment, depth, none⟩ := rfl
    rw [find?_cons_of_step hslash, find?_cons_of_step hopen, find?_comment _ _ _ _ (by simp), ih]
    · rfl
    · intro _ hstar
      obtain ⟨t', ht'⟩ := List.head?_eq_some_iff.mp hstar
      rw [ht', Text.lexemes_asterisk] at h
      exact h.apart.rel rfl rfl
    · exact h.tail
  | case3 c t hc hquote ih =>
    have hopen : step ⟨.code, depth, last⟩ c = some ⟨.quoted c, depth, some c⟩ := by
      rcases hquote with rfl | rfl <;> simp [step]
    have hbackslash : c ≠ '\\' := by rcases hquote with rfl | rfl <;> decide
    obtain ⟨hnewline, hend⟩ := h.plain _ List.mem_cons_self
    rw [find?_cons_of_step hopen, find?_quoted hbackslash _ _ _ _ hnewline, ih]
    · rfl
    · intro hslash _
      rcases eq_of_head?_splitQuoted hslash with rfl | hnewline'
      · simp at hquote
      · exact absurd hnewline' (by decide)
    · exact h.tail
    · intro hends
      cases hbody : (Text.splitQuoted c t).1.getLast? with
      | none => simpa using hbackslash
      | some b => simpa [hbody] using hend hends
  | case4 c t hc hquote ih =>
    have hstar : ¬ (c = '*' ∧ last = some '/') := by
      rintro ⟨rfl, hslash⟩
      exact hlast hslash rfl
    rw [find?, step_code hstar hquote, Lexeme.stray?]
    by_cases hstray : Lexeme.mark c = .mark '\x7d' ∧ depth = 0
    · rw [if_pos hstray, if_pos hstray]
    · rw [if_neg hstray, if_neg hstray]
      refine ih _ _ _ ?_ h.tail
      intro hslash hasterisk
      obtain ⟨t', rfl⟩ := List.head?_eq_some_iff.mp hasterisk
      exact hc t' (Option.some.inj hslash) rfl

end BraceScan

/-! ## What the scan finds -/

namespace Text

/-- **The scan finds the first stray brace of a legible text**, that is, the first closing brace
outside comments and quotes before which as many braces of both kinds stand there. It finds nothing
exactly if there is none. -/
theorem strayBrace?_of_legible {t : Text} (h : Lexeme.Legible t.lexemes) :
    t.lexemes.flatMap Lexeme.text = t ∧
    (∀ p, t.strayBrace? = some p ↔ ∃ before after, Lexeme.StrayIn 0 t.lexemes before after ∧
      (∀ before' after', Lexeme.StrayIn 0 t.lexemes before' after' →
        before.length ≤ before'.length) ∧
      p = endPosition (before.flatMap Lexeme.text)) ∧
    (t.strayBrace? = none ↔ ∀ before after, ¬ Lexeme.StrayIn 0 t.lexemes before after) := by
  have hscan : t.strayBrace? = Lexeme.stray? 0 .origin t.lexemes :=
    BraceScan.find?_code 0 none .origin t (by simp) h
  rw [hscan]
  exact ⟨Lexeme.flatMap_text_lexemes t, fun p => Lexeme.stray?_eq_some_iff,
    Lexeme.stray?_eq_none_iff⟩

/-- A closing brace in a comment, one in quotes behind an escaped quote, one that closes a block,
and a stray one. -/
def braceSample : Text := "/*/\x7d*/a\x7b'\\'\x7d'\x7d\x7d".toList

/-- Of the closing braces of the sample, only the last one is stray. -/
theorem strayBrace?_of_legible_sample :
    Lexeme.Legible braceSample.lexemes ∧ braceSample.strayBrace? = some ⟨0, 14⟩ ∧
      ∃ before after, Lexeme.StrayIn 0 braceSample.lexemes before after ∧
        (∀ before' after', Lexeme.StrayIn 0 braceSample.lexemes before' after' →
          before.length ≤ before'.length) ∧
        ⟨0, 14⟩ = endPosition (before.flatMap Lexeme.text) := by
  have hlexemes : braceSample.lexemes =
      [.comment "/*/\x7d*/".toList, .mark 'a', .mark '\x7b',
        .quoted '\'' "\\'\x7d".toList (some '\''), .mark '\x7d', .mark '\x7d'] := by decide +kernel
  have hlegible : Lexeme.Legible braceSample.lexemes := by
    rw [hlexemes]
    exact ⟨by decide, by decide⟩
  have hscan : braceSample.strayBrace? = some ⟨0, 14⟩ := by decide
  exact ⟨hlegible, hscan, ((strayBrace?_of_legible hlegible).2.1 _).mp hscan⟩

/-- **Texts that the scan misreads.** Behind an escaped backslash it does not see the end of a text
in quotes, and behind a comment it takes an asterisk for the begin of another one; so it misses the
brace that follows. A line feed ends what is in quotes for it, even if it is escaped; so it finds a
brace in quotes. -/
theorem strayBrace?_misread :
    (strayBrace? "'\\\\'\x7d".toList = none ∧
      Lexeme.StrayIn 0 (lexemes "'\\\\'\x7d".toList)
        [.quoted '\'' "\\\\".toList (some '\'')] []) ∧
    (strayBrace? "/**/*\x7d".toList = none ∧
      Lexeme.StrayIn 0 (lexemes "/**/*\x7d".toList) [.comment "/**/".toList, .mark '*'] []) ∧
    (strayBrace? "'\\\n\x7d".toList = some ⟨1, 0⟩ ∧
      ∀ before after, ¬ Lexeme.StrayIn 0 (lexemes "'\\\n\x7d".toList) before after) := by
  have hbackslash : lexemes "'\\\\'\x7d".toList =
      [.quoted '\'' "\\\\".toList (some '\''), .mark '\x7d'] := by decide +kernel
  have hasterisk : lexemes "/**/*\x7d".toList =
      [.comment "/**/".toList, .mark '*', .mark '\x7d'] := by decide +kernel
  have hnewline : lexemes "'\\\n\x7d".toList =
      [.quoted '\'' "\\\n\x7d".toList none] := by decide +kernel
  refine ⟨⟨by decide, ?_⟩, ⟨by decide, ?_⟩, by decide, ?_⟩
  · rw [hbackslash]
    exact ⟨rfl, by decide⟩
  · rw [hasterisk]
    exact ⟨rfl, by decide⟩
  · rw [hnewline, ← Lexeme.stray?_eq_none_iff (p := .origin)]
    decide

end Text

end CssFragments
