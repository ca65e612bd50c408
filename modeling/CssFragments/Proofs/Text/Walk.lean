import CssFragments.Proofs.Text.Lines

/-! # Walking to a position

The offset of a position can be found on the bytes of a text alone. One goes from line feed to line
feed up to the line of the position, cuts that line out and goes on by its characters. On this way
the text is cut again and again, and a cut would fail in the middle of a character. It never does,
and the way ends at `Text.offsetAt`.

* `Text.walkTo?`: this way.
* `Text.walkFrom?_byteSize`: from the start of a line, it leads to a position of what follows.
* `Text.walkTo?_eq_some`: where it ends. -/

namespace CssFragments

namespace Text

/-! ## The way through the bytes -/

/-- The byte at which the first line feed stands. -/
def newlineAt? : Text → Option Nat
  | [] => none
  | c :: t => if c = '\n' then some 0 else (newlineAt? t).map (c.utf8Size + ·)

/-- The bytes at which the characters start. -/
def charStarts : Text → List Nat
  | [] => []
  | c :: t => 0 :: (charStarts t).map (c.utf8Size + ·)

/-- On the line that starts at byte `start`, the byte of the given character, or that of the end of
the line. -/
def walkLine? (t : Text) (character start : Nat) : Option Nat := do
  let rest ← t.slice? start t.byteSize
  let stop := (rest.newlineAt?.map (start + ·)).getD t.byteSize
  let line ← t.slice? start stop
  return (line.charStarts[character]?.map (start + ·)).getD stop

/-- The same on the line that is `lines` further. -/
def walkFrom? (t : Text) (character : Nat) : Nat → Nat → Option Nat
  | 0, start => t.walkLine? character start
  | lines + 1, start => do
    let rest ← t.slice? start t.byteSize
    match rest.newlineAt? with
    | some newline => t.walkFrom? character lines (start + newline + 1)
    | none => return t.byteSize

/-- The byte of a position (`position_to_byte`), unless the text is cut in the middle of a
character. -/
def walkTo? (t : Text) (p : Position) : Option Nat := t.walkFrom? p.character p.line 0

/-! ## Line feeds and characters -/

theorem newlineAt?_of_notMem {t : Text} (h : '\n' ∉ t) : t.newlineAt? = none := by
  induction t with
  | nil => rfl
  | cons c t ih =>
    obtain ⟨hc, ht⟩ := not_or.mp (mt List.mem_cons.mpr h)
    rw [newlineAt?, if_neg (Ne.symm hc), ih ht, Option.map_none]

theorem newlineAt?_append {t : Text} (h : '\n' ∉ t) (u : Text) :
    (t ++ '\n' :: u).newlineAt? = some t.byteSize := by
  induction t with
  | nil => rfl
  | cons c t ih =>
    obtain ⟨hc, ht⟩ := not_or.mp (mt List.mem_cons.mpr h)
    rw [List.cons_append, newlineAt?, if_neg (Ne.symm hc), ih ht]
    rfl

theorem getElem?_charStarts (t : Text) (n : Nat) :
    t.charStarts[n]? = if n < t.length then some (byteSize (t.take n)) else none := by
  induction t generalizing n with
  | nil => simp [charStarts]
  | cons c t ih =>
    cases n with
    | zero => rfl
    | succ n =>
      rw [charStarts, List.getElem?_cons_succ, List.getElem?_map, ih]
      by_cases hn : n < t.length <;> simp [hn]

/-- A text is one line, or it has a first line and a line feed behind it. -/
theorem notMem_or_eq_append (t : Text) :
    '\n' ∉ t ∨ ∃ u v : Text, t = u ++ '\n' :: v ∧ '\n' ∉ u := by
  by_cases h : '\n' ∈ t
  · exact .inr (List.eq_append_cons_of_mem h)
  · exact .inl h

theorem slice?_append_byteSize (u v : Text) :
    (u ++ v).slice? u.byteSize (u ++ v).byteSize = some v :=
  slice?_eq_some_iff.mpr ⟨u, [], by simp, rfl, rfl⟩

/-! ## Positions on the first line -/

theorem endPosition_of_notMem {t : Text} (h : '\n' ∉ t) : t.endPosition = ⟨0, t.length⟩ := by
  have h := endPosition_append_of_notMem [] h
  simpa [Position.origin] using h

/-- **On the first line, characters are counted**, and behind its end there is only this end. -/
theorem offsetAt_firstLine {t u : Text} (ht : '\n' ∉ t) (hu : u = [] ∨ ∃ v, u = '\n' :: v)
    (n : Nat) : (t ++ u).offsetAt ⟨0, n⟩ = byteSize (t.take n) := by
  rcases le_total n t.length with hn | hn
  · have htake : endPosition (t.take n) = ⟨0, n⟩ := by
      rw [endPosition_of_notMem fun h => ht (List.mem_of_mem_take h), List.length_take,
        Nat.min_eq_left hn]
    have hupTo := upTo_append_endPosition (t.take n) (t.drop n ++ u)
    rw [← List.append_assoc, List.take_append_drop, htake] at hupTo
    rw [offsetAt, hupTo]
  · have hp : (⟨0, n⟩ : Position) = t.endPosition + ⟨0, n - t.length⟩ := by
      rw [endPosition_of_notMem ht, Position.add_def, if_pos rfl, Nat.add_sub_cancel' hn]
    have hbefore : indexAt u ⟨0, n - t.length⟩ = 0 := by
      rcases hu with rfl | ⟨v, rfl⟩
      · exact indexAt_nil _
      · exact indexAt_cons_of_lt v (.inl Nat.zero_lt_one)
    rw [hp, offsetAt_append_add, offsetAt, upTo, hbefore, List.take_of_length_le hn]
    rfl

/-- Positions behind the end are at the end. -/
theorem offsetAt_of_endPosition_le {t : Text} {p : Position} (h : t.endPosition ≤ p) :
    t.offsetAt p = t.byteSize := by
  rw [offsetAt, upTo, indexAt_of_endPosition_le h, List.take_length]

/-! ## Where the way ends -/

/-- Along a line, the way goes from character to character up to the end. -/
theorem getD_charStarts (t : Text) (start n : Nat) :
    (t.charStarts[n]?.map (start + ·)).getD (start + t.byteSize) =
      start + byteSize (t.take n) := by
  rw [getElem?_charStarts]
  split
  · rfl
  · next hn => rw [List.take_of_length_le (Nat.le_of_not_lt hn)]; rfl

theorem walkLine?_byteSize (u v : Text) (n : Nat) :
    (u ++ v).walkLine? n u.byteSize = some (u.byteSize + v.offsetAt ⟨0, n⟩) := by
  rw [walkLine?, slice?_append_byteSize]
  rcases v.notMem_or_eq_append with hv | ⟨line, rest, rfl, hline⟩
  · -- the last line
    have hoffset := offsetAt_firstLine hv (.inl rfl) n
    rw [List.append_nil] at hoffset
    simp only [Option.bind_eq_bind, Option.bind_some, newlineAt?_of_notMem hv, Option.map_none,
      Option.getD_none, slice?_append_byteSize]
    rw [byteSize_append, getD_charStarts, hoffset]
    rfl
  · have hslice : (u ++ (line ++ '\n' :: rest)).slice? u.byteSize (u.byteSize + line.byteSize) =
        some line := slice?_eq_some_iff.mpr ⟨u, '\n' :: rest, rfl, rfl, byteSize_append u line⟩
    simp only [Option.bind_eq_bind, Option.bind_some, newlineAt?_append hline, Option.map_some,
      Option.getD_some, hslice]
    rw [getD_charStarts, offsetAt_firstLine hline (.inr ⟨rest, rfl⟩)]
    rfl

/-- **From the start of a line** the way leads to a position of what follows. -/
theorem walkFrom?_byteSize (u v : Text) (l n : Nat) :
    (u ++ v).walkFrom? n l u.byteSize = some (u.byteSize + v.offsetAt ⟨l, n⟩) := by
  induction l generalizing u v with
  | zero => exact walkLine?_byteSize u v n
  | succ l ih =>
    rw [walkFrom?, slice?_append_byteSize, Option.bind_eq_bind, Option.bind_some]
    rcases v.notMem_or_eq_append with hv | ⟨line, rest, rfl, hline⟩
    · -- there are not that many lines
      have hend : v.endPosition ≤ ⟨l + 1, n⟩ := by
        rw [endPosition_of_notMem hv]
        exact .inl (Nat.succ_pos l)
      rw [newlineAt?_of_notMem hv, offsetAt_of_endPosition_le hend, byteSize_append]
      rfl
    · -- one line and its line feed are left behind
      have hstart : u.byteSize + line.byteSize + 1 = byteSize (u ++ (line ++ ['\n'])) := by
        rw [byteSize_append, byteSize_append, Nat.add_assoc]
        rfl
      have hend : (line ++ ['\n']).endPosition = Position.advance .origin '\n' := by
        rw [endPosition_append, endPosition_of_notMem hline]
        rfl
      have hp : (⟨l + 1, n⟩ : Position) = (line ++ ['\n']).endPosition + ⟨l, n⟩ := by
        rw [hend, Position.advance_newline_add]
      have hsplit : line ++ '\n' :: rest = line ++ ['\n'] ++ rest := by simp
      simp only [newlineAt?_append hline]
      rw [hstart, hsplit, ← List.append_assoc, ih, hp, offsetAt_append_add, byteSize_append,
        Nat.add_assoc]

/-- **The way ends at the offset of the position**, for all positions. -/
theorem walkTo?_eq_some (t : Text) (p : Position) : t.walkTo? p = some (t.offsetAt p) := by
  have h := walkFrom?_byteSize [] t p.line p.character
  rwa [byteSize_nil, Nat.zero_add] at h

end Text

end CssFragments
