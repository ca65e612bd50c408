import CssFragments.Proofs.Text.Walk
import CssFragments.Text.Edit

/-! # Edits, line by line

An editor keeps a document as a list of lines and edits it there: it cuts the first and the last
line of a range, puts the new text between what is left of them, and divides the result into lines
again. Edits of a text do the same, whether they count characters or bytes.

* `Text.lines`, `Text.ofLines`: a text as its lines, and back.
* `Lines.clamp`, `Lines.edit`: edits of a list of lines.
* `Text.endPosition_upTo`: the place to which a position is moved back, by the lines.
* `Lines.ofLines_splice`: what is cut out of the lines is cut out of the text.
* `Change.applyBytes?`: an edit in bytes, which fails if it would cut a character in two.
* `Document.text_edit_eq`: all edits of a document, in lines and in bytes. -/

namespace CssFragments

namespace Text

/-! ## Texts and their lines -/

/-- The lines of a text, without the line feeds between them. -/
def lines (t : Text) : List Text := t.splitOn '\n'

/-- The text that has the given lines. -/
def ofLines (ls : List Text) : Text := ['\n'].intercalate ls

@[simp] theorem lines_nil : lines [] = [[]] := List.splitOn_nil '\n'

@[simp] theorem lines_newline (t : Text) : lines ('\n' :: t) = [] :: t.lines := by
  simp [lines, List.splitOn, List.splitOnP_cons_eq_if_modifyHead]

/-- A character that is not a line feed is on the first line. -/
theorem lines_cons_of_ne {c : Char} (hc : c ≠ '\n') (t : Text) :
    lines (c :: t) = t.lines.modifyHead (c :: ·) := by
  simp [lines, List.splitOn, List.splitOnP_cons_eq_if_modifyHead, hc]

theorem lines_ne_nil (t : Text) : t.lines ≠ [] := t.splitOn_ne_nil '\n'

@[simp] theorem ofLines_lines (t : Text) : ofLines t.lines = t := List.intercalate_splitOn '\n'

/-- There are no line feeds in lines. -/
theorem newline_notMem_of_mem_lines {t l : Text} (h : l ∈ t.lines) : '\n' ∉ l := by
  induction t generalizing l with
  | nil =>
    rw [lines_nil, List.mem_singleton] at h
    simp [h]
  | cons c t ih =>
    by_cases hc : c = '\n'
    · subst hc
      rw [lines_newline, List.mem_cons] at h
      rcases h with rfl | h
      · exact List.not_mem_nil
      · exact ih h
    · obtain ⟨first, rest, ht⟩ := List.exists_cons_of_ne_nil (lines_ne_nil t)
      rw [ht] at ih
      rw [lines_cons_of_ne hc, ht, List.modifyHead_cons, List.mem_cons] at h
      rcases h with rfl | h
      · have hfirst := ih List.mem_cons_self
        simp [Ne.symm hc, hfirst]
      · exact ih (List.mem_cons_of_mem _ h)

theorem lines_ofLines {ls : List Text} (hne : ls ≠ []) (h : ∀ l ∈ ls, '\n' ∉ l) :
    lines (ofLines ls) = ls := List.splitOn_intercalate '\n' h hne

@[simp] theorem ofLines_singleton (l : Text) : ofLines [l] = l := List.intercalate_singleton

/-- A line feed stands between a line and the next. -/
theorem ofLines_cons_of_ne_nil (l : Text) {ls : List Text} (h : ls ≠ []) :
    ofLines (l :: ls) = l ++ '\n' :: ofLines ls := by
  rw [ofLines, List.intercalate_cons_of_ne_nil h, List.append_assoc]
  rfl

/-- Text before the first line is on the first line. -/
theorem append_ofLines_cons (s l : Text) (ls : List Text) :
    s ++ ofLines (l :: ls) = ofLines ((s ++ l) :: ls) := by
  cases ls with
  | nil => simp
  | cons l' ls =>
    rw [ofLines_cons_of_ne_nil _ (List.cons_ne_nil _ _),
      ofLines_cons_of_ne_nil _ (List.cons_ne_nil _ _), List.append_assoc]

/-- When texts are joined, the last line of the first and the first line of the second become one
line. -/
theorem ofLines_append_ofLines (as : List Text) (x y : Text) (bs : List Text) :
    ofLines (as ++ [x]) ++ ofLines (y :: bs) = ofLines (as ++ (x ++ y) :: bs) := by
  induction as with
  | nil => simp [append_ofLines_cons]
  | cons a as ih =>
    have hfirst : as ++ [x] ≠ [] := by simp
    have hboth : as ++ (x ++ y) :: bs ≠ [] := by simp
    rw [List.cons_append, List.cons_append, ofLines_cons_of_ne_nil a hfirst,
      ofLines_cons_of_ne_nil a hboth, ← ih, List.append_assoc, List.cons_append]

/-- Dividing one of the lines again changes nothing about the text. -/
theorem ofLines_append_lines_append (as : List Text) (m : Text) (bs : List Text) :
    ofLines (as ++ (m.lines ++ bs)) = ofLines (as ++ m :: bs) := by
  -- all that counts is that the lines of `m` are some lines that make up `m`
  have hdivide (ls : List Text) (hne : ls ≠ []) :
      ofLines (ls ++ bs) = ofLines (ofLines ls :: bs) := by
    induction ls with
    | nil => exact absurd rfl hne
    | cons l ls ih =>
      by_cases hls : ls = []
      · simp [hls]
      · rw [List.cons_append, ofLines_cons_of_ne_nil l (by simp [hls]), ih hls,
          ofLines_cons_of_ne_nil l hls, ← List.singleton_append, ← List.append_assoc,
          append_ofLines_cons]
        simp
  induction as with
  | nil =>
    have h := hdivide m.lines m.lines_ne_nil
    rwa [ofLines_lines] at h
  | cons a as ih =>
    have hdivided : as ++ (m.lines ++ bs) ≠ [] := by simp [lines_ne_nil]
    have hwhole : as ++ m :: bs ≠ [] := by simp
    rw [List.cons_append, List.cons_append, ofLines_cons_of_ne_nil a hdivided,
      ofLines_cons_of_ne_nil a hwhole, ih]

/-- **The end of a text by its lines.** It is on the last line, behind all its characters. -/
theorem exists_lines_eq (t : Text) :
    ∃ as x, t.lines = as ++ [x] ∧ t.endPosition = ⟨as.length, x.length⟩ := by
  induction t with
  | nil => exact ⟨[], [], rfl, rfl⟩
  | cons c t ih =>
    obtain ⟨as, x, hlines, hend⟩ := ih
    rw [endPosition_cons, hend]
    by_cases hc : c = '\n'
    · subst hc
      rw [lines_newline, hlines, Position.advance_newline_add]
      exact ⟨[] :: as, x, rfl, rfl⟩
    · rw [lines_cons_of_ne hc, hlines, Position.advance_add_of_ne hc]
      -- only a text of one line has its end on the line of the first character
      cases as with
      | nil => exact ⟨[], c :: x, rfl, rfl⟩
      | cons a as => exact ⟨(c :: a) :: as, x, rfl, rfl⟩

end Text

/-! ## Edits of lines -/

namespace Lines

/-- The end of the last line. -/
def lastPosition (ls : List Text) : Position := ⟨ls.length - 1, (ls.getLast?.getD []).length⟩

/-- Where a position is moved to: behind the last line to the end of that line, behind the end of a
line to that end. -/
def clamp (ls : List Text) (p : Position) : Position :=
  match ls[p.line]? with
  | some line => ⟨p.line, min p.character line.length⟩
  | none => lastPosition ls

/-- Puts new text between what is before `start` on its line and what is behind `stop` on its line,
and divides the result into lines again. -/
def splice (ls : List Text) (start stop : Position) (new : Text) : List Text :=
  let first := (ls.getD start.line []).take start.character
  let last := (ls.getD stop.line []).drop stop.character
  ls.take start.line ++ (Text.lines (first ++ new ++ last) ++ ls.drop (stop.line + 1))

/-- The lines after an edit. Both ends of a range are moved to places that there are, and an end
that precedes the start is moved to the start. -/
def edit (ls : List Text) (change : Change) : List Text :=
  match change.range with
  | none => change.text.lines
  | some r =>
    let start := clamp ls r.start
    splice ls start (max start (clamp ls r.stop)) change.text

/-! ### Places on lines -/

@[simp] theorem clamp_cons_zero (l : Text) (ls : List Text) (n : Nat) :
    clamp (l :: ls) ⟨0, n⟩ = ⟨0, min n l.length⟩ := rfl

@[simp] theorem clamp_singleton_succ (l : Text) (k n : Nat) :
    clamp [l] ⟨k + 1, n⟩ = ⟨0, l.length⟩ := rfl

/-- Behind the first line, only the other lines count. -/
theorem clamp_cons_succ (l : Text) {ls : List Text} (h : ls ≠ []) (k n : Nat) :
    clamp (l :: ls) ⟨k + 1, n⟩ =
      ⟨(clamp ls ⟨k, n⟩).line + 1, (clamp ls ⟨k, n⟩).character⟩ := by
  simp only [clamp, List.getElem?_cons_succ]
  cases ls[k]? with
  | some line => rfl
  | none =>
    obtain ⟨l', ls, rfl⟩ := List.exists_cons_of_ne_nil h
    simp [lastPosition]

end Lines

namespace Text

/-- **Where a position is moved back to**, by the lines of the text. -/
theorem endPosition_upTo (t : Text) (p : Position) :
    (t.upTo p).endPosition = Lines.clamp t.lines p := by
  induction t generalizing p with
  | nil =>
    obtain ⟨l, n⟩ := p
    cases l <;> simp [upTo, Position.origin]
  | cons c t ih =>
    by_cases hc : c = '\n'
    · subst hc
      rw [lines_newline]
      rcases lt_advance_or_eq_add '\n' p with hlt | ⟨⟨l, n⟩, rfl⟩
      · -- on the first line, which is empty
        obtain ⟨l, n⟩ := p
        obtain rfl : l = 0 := by
          simp only [Position.advance_newline, Position.lt_def, Position.origin] at hlt
          omega
        rw [upTo_cons_of_lt t hlt, Lines.clamp_cons_zero, List.length_nil, Nat.min_zero]
        rfl
      · rw [upTo_cons_add, endPosition_cons, ih, Position.advance_newline_add,
          Position.advance_newline_add, Lines.clamp_cons_succ _ (lines_ne_nil t)]
    · obtain ⟨first, rest, ht⟩ := List.exists_cons_of_ne_nil (lines_ne_nil t)
      rw [lines_cons_of_ne hc, ht, List.modifyHead_cons]
      rcases lt_advance_or_eq_add c p with hlt | ⟨⟨l, n⟩, rfl⟩
      · -- only the start precedes the end of the first character
        obtain ⟨l, n⟩ := p
        obtain ⟨rfl, rfl⟩ : l = 0 ∧ n = 0 := by
          simp only [Position.advance_of_ne _ hc, Position.lt_def, Position.origin] at hlt
          omega
        rw [upTo_cons_of_lt t hlt, Lines.clamp_cons_zero, Nat.zero_min]
        rfl
      · rw [upTo_cons_add, endPosition_cons, ih, ht, Position.advance_add_of_ne hc,
          Position.advance_add_of_ne hc]
        cases l with
        | zero => simp
        | succ l =>
          by_cases hrest : rest = []
          · subst hrest
            simp
          · simp [Lines.clamp_cons_succ _ hrest]

/-- A text with which another one begins has the same lines, up to where it ends. -/
theorem exists_lines_append_eq (u v : Text) :
    ∃ as x y bs, u.endPosition = ⟨as.length, x.length⟩ ∧ u = ofLines (as ++ [x]) ∧
      v = ofLines (y :: bs) ∧ lines (u ++ v) = as ++ (x ++ y) :: bs := by
  obtain ⟨as, x, hu, hend⟩ := u.exists_lines_eq
  obtain ⟨y, bs, hv⟩ := List.exists_cons_of_ne_nil v.lines_ne_nil
  have hu' : u = ofLines (as ++ [x]) := by rw [← hu, ofLines_lines]
  have hv' : v = ofLines (y :: bs) := by rw [← hv, ofLines_lines]
  refine ⟨as, x, y, bs, hend, hu', hv', ?_⟩
  rw [hu', hv', ofLines_append_ofLines, lines_ofLines (by simp)]
  -- the line that was put together has no line feed, like those it comes from
  have hleft : ∀ l ∈ as ++ [x], '\n' ∉ l := fun l hl => newline_notMem_of_mem_lines (hu ▸ hl)
  have hright : ∀ l ∈ y :: bs, '\n' ∉ l := fun l hl => newline_notMem_of_mem_lines (hv ▸ hl)
  intro l hl
  rcases List.mem_append.mp hl with hl | hl
  · exact hleft l (List.mem_append_left _ hl)
  · rcases List.mem_cons.mp hl with rfl | hl
    · rw [List.mem_append, not_or]
      exact ⟨hleft x (by simp), hright y List.mem_cons_self⟩
    · exact hright l (List.mem_cons_of_mem _ hl)

end Text

namespace Lines

/-- **What is cut out of the lines of a text is cut out of the text.** -/
theorem ofLines_splice {t u v u' v' : Text} (h : u ++ v = t) (h' : u' ++ v' = t) (new : Text) :
    Text.ofLines (splice t.lines u.endPosition u'.endPosition new) = u ++ new ++ v' := by
  obtain ⟨as, x, y, bs, hend, hu, -, hlines⟩ := Text.exists_lines_append_eq u v
  obtain ⟨as', x', y', bs', hend', -, hv', hlines'⟩ := Text.exists_lines_append_eq u' v'
  rw [h] at hlines
  rw [h'] at hlines'
  -- `x` is what is left of the first line, and `y'` what is left of the last
  have hfirst : (t.lines.getD as.length []).take x.length = x := by
    rw [hlines]
    simp
  have hlast : (t.lines.getD as'.length []).drop x'.length = y' := by
    rw [hlines']
    simp
  have hbefore : t.lines.take as.length = as := by
    rw [hlines, List.take_left]
  have hafter : t.lines.drop (as'.length + 1) = bs' := by
    rw [hlines', ← List.drop_drop, List.drop_left]
    rfl
  calc Text.ofLines (splice t.lines u.endPosition u'.endPosition new)
      = Text.ofLines (as ++ (x ++ new ++ y') :: bs') := by
        rw [splice, hend, hend', hfirst, hlast, hbefore, hafter, Text.ofLines_append_lines_append]
    _ = Text.ofLines (as ++ [x]) ++ (new ++ Text.ofLines (y' :: bs')) := by
        rw [Text.append_ofLines_cons, Text.ofLines_append_ofLines, List.append_assoc]
    _ = u ++ new ++ v' := by rw [← hu, ← hv', List.append_assoc]

/-- Edits leave no lines with line feeds in them. -/
theorem lines_ofLines_edit (t : Text) (change : Change) :
    (Text.ofLines (edit t.lines change)).lines = edit t.lines change := by
  rw [edit]
  split
  · rw [Text.ofLines_lines]
  · refine Text.lines_ofLines ?_ fun l hl => ?_
    · simp [splice, Text.lines_ne_nil]
    · simp only [splice, List.mem_append] at hl
      rcases hl with hl | hl | hl
      · exact Text.newline_notMem_of_mem_lines (List.mem_of_mem_take hl)
      · exact Text.newline_notMem_of_mem_lines hl
      · exact Text.newline_notMem_of_mem_lines (List.mem_of_mem_drop hl)

end Lines

/-! ## Edits of texts -/

namespace Text

/-- More of a text ends later. -/
theorem endPosition_take_le (t : Text) {i j : Nat} (h : i ≤ j) :
    endPosition (t.take i) ≤ endPosition (t.take j) :=
  endPosition_le_of_isPrefix (List.take_prefix_take_left h)

/-- More of a text has more bytes. -/
theorem byteSize_take_le (t : Text) {i j : Nat} (h : i ≤ j) :
    byteSize (t.take i) ≤ byteSize (t.take j) := by
  obtain ⟨u, hu⟩ : t.take i <+: t.take j := List.take_prefix_take_left h
  rw [← hu, byteSize_append]
  exact Nat.le_add_right _ _

/-- The bytes from `start` to `stop` are replaced, if they are in this order and both ends lie
between characters of the text. -/
def replaceBytes? (t : Text) (start stop : Nat) (new : Text) : Option Text :=
  if start ≤ stop then do
    let before ← t.takeBytes? start
    let after ← t.dropBytes? stop
    return before ++ new ++ after
  else none

end Text

namespace Change

/-- The text after an edit that is made in bytes (`apply_changes`): as `Change.apply`, but it fails
where the text would be cut in the middle of a character, or where bytes could not be replaced. -/
def applyBytes? (change : Change) (t : Text) : Option Text :=
  match change.range with
  | none => some change.text
  | some r => do
    let start ← t.walkTo? r.start
    let stop ← t.walkTo? r.stop
    t.replaceBytes? start (max stop start) change.text

/-- **An edit is one of the lines.** -/
theorem apply_eq_ofLines (change : Change) (t : Text) :
    change.apply t = Text.ofLines (Lines.edit t.lines change) := by
  obtain ⟨range, new⟩ := change
  cases range with
  | none => exact (Text.ofLines_lines new).symm
  | some r =>
    -- of two places in the text, the later one has more before it
    have hstop : max (Lines.clamp t.lines r.start) (Lines.clamp t.lines r.stop) =
        Text.endPosition (t.take (max (t.indexAt r.stop) (t.indexAt r.start))) := by
      rw [← Text.endPosition_upTo, ← Text.endPosition_upTo, Text.upTo, Text.upTo]
      rcases le_total (t.indexAt r.stop) (t.indexAt r.start) with hle | hle
      · rw [max_eq_right hle, max_eq_left (t.endPosition_take_le hle)]
      · rw [max_eq_left hle, max_eq_right (t.endPosition_take_le hle)]
    simp only [apply, Lines.edit]
    rw [hstop, ← Text.endPosition_upTo]
    exact (Lines.ofLines_splice (List.take_append_drop _ t) (List.take_append_drop _ t) new).symm

theorem lines_apply (change : Change) (t : Text) :
    (change.apply t).lines = Lines.edit t.lines change := by
  rw [apply_eq_ofLines, Lines.lines_ofLines_edit]

/-- **An edit in bytes never fails.** It is the edit in characters. -/
theorem applyBytes?_eq_some (change : Change) (t : Text) :
    change.applyBytes? t = some (change.apply t) := by
  obtain ⟨range, new⟩ := change
  cases range with
  | none => rfl
  | some r =>
    have hstart : t.takeBytes? (t.offsetAt r.start) = some (t.take (t.indexAt r.start)) := by
      have h := Text.takeBytes?_append_byteSize (t.upTo r.start) (t.drop (t.indexAt r.start))
      rwa [t.upTo_append_drop] at h
    have hstop : max (t.offsetAt r.stop) (t.offsetAt r.start) =
        Text.byteSize (t.take (max (t.indexAt r.stop) (t.indexAt r.start))) := by
      rcases le_total (t.indexAt r.stop) (t.indexAt r.start) with hle | hle
      · rw [max_eq_right hle]
        exact max_eq_right (t.byteSize_take_le hle)
      · rw [max_eq_left hle]
        exact max_eq_left (t.byteSize_take_le hle)
    have hafter (j : Nat) : t.dropBytes? (Text.byteSize (t.take j)) = some (t.drop j) :=
      Text.dropBytes?_eq_some_iff.mpr ⟨t.take j, List.take_append_drop j t, rfl⟩
    simp only [applyBytes?, Text.walkTo?_eq_some, Option.bind_eq_bind, Option.bind_some,
      Text.replaceBytes?, apply, hstart, le_max_right, if_true]
    rw [hstop, hafter]
    rfl

/-- All edits in bytes are made, each on what the ones before it left. -/
theorem foldlM_applyBytes? (changes : List Change) (t : Text) :
    changes.foldlM (fun t change => change.applyBytes? t) t = some (applyAll changes t) := by
  induction changes generalizing t with
  | nil => rfl
  | cons change changes ih =>
    rw [List.foldlM_cons, applyBytes?_eq_some, applyAll_cons, ← ih]
    rfl

/-- Edits that are made one after the other are those of the lines. -/
theorem lines_applyAll (changes : List Change) (t : Text) :
    (applyAll changes t).lines = changes.foldl Lines.edit t.lines := by
  induction changes generalizing t with
  | nil => rfl
  | cons change changes ih => rw [applyAll_cons, ih, lines_apply, List.foldl_cons]

end Change

/-- **Edits of a document are edits of its lines.** After any edits, with whatever positions, the
text is the one that an editor has which keeps the document as a list of lines. The edits could as
well be made in bytes: none of them would cut a character in two, end before it starts, or reach out
of the text. -/
theorem Document.text_edit_eq (d : Document) (changes : List Change) (version : Int) :
    (d.edit changes version).text = Text.ofLines (changes.foldl Lines.edit d.text.lines) ∧
      changes.foldlM (fun t change => change.applyBytes? t) d.text =
        some (d.edit changes version).text := by
  refine ⟨?_, Change.foldlM_applyBytes? changes d.text⟩
  rw [← Change.lines_applyAll, Text.ofLines_lines]
  rfl

/-- A range that reaches behind the last line, and one that ends before it starts. -/
example :
    [⟨some ⟨⟨0, 1⟩, ⟨9, 9⟩⟩, ['x', '\n']⟩, ⟨some ⟨⟨1, 5⟩, ⟨0, 0⟩⟩, ['y']⟩].foldl Lines.edit
      [['a', 'b'], ['c']] = [['a', 'x'], ['y']] := by decide

end CssFragments
