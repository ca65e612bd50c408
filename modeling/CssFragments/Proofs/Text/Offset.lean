import CssFragments.Proofs.Text.Position

/-! # Offsets and positions

How the three ways to point into a text go together when texts are joined.

* `Text.indexAt_append_add`, `Text.offsetAt_append_add`: in joined texts, a position of the second
  text is found behind the end of the first.
* `Text.indexAt_append_of_le`, `Text.offsetAt_append_of_le`: more text changes nothing for the
  positions up to the old end.
* `Text.indexAt_min_endPosition`: positions behind the end stand for the end.
* `Text.positionAt_append_add`, `Text.positionAt_append_of_le`: the same facts for the way from
  offsets to positions.
* `Text.positionAt_le_positionAt`, `Text.positionAt_lt_positionAt`: the order of offsets is that of
  their positions.
* `Text.IsBoundary`, `Text.slice?_eq_some_iff`: the offsets that lie between two characters, and
  what lies between two of them. -/

namespace CssFragments

namespace Text

/-! ## Characters before a position -/

@[simp] theorem indexAt_nil (p : Position) : indexAt [] p = 0 := by
  rw [indexAt, countBefore]

@[simp] theorem indexAt_origin (t : Text) : t.indexAt .origin = 0 := by
  cases t <;> rfl

/-- Positions behind the first character are found in the rest of the text. -/
theorem indexAt_cons_add (c : Char) (t : Text) (p : Position) :
    indexAt (c :: t) (Position.advance .origin c + p) = indexAt t p + 1 := by
  obtain ⟨l, n⟩ := p
  by_cases hc : c = '\n'
  · subst hc
    have hp : Position.advance .origin '\n' + ⟨l, n⟩ = ⟨l + 1, n⟩ := by
      cases l <;> simp [Position.add_def, Position.origin, Nat.add_comm]
    rw [hp, indexAt, countBefore, if_pos rfl]
    rfl
  · rw [Position.advance_of_ne _ hc]
    -- only on the first line does the character in front count
    cases l with
    | zero =>
      have hp : (⟨0, 0 + 1⟩ : Position) + ⟨0, n⟩ = ⟨0, n + 1⟩ := by
        simp [Position.add_def, Nat.add_comm]
      rw [Position.origin, hp, indexAt, countBefore, if_neg hc]
      rfl
    | succ l =>
      have hp : (⟨0, 0 + 1⟩ : Position) + ⟨l + 1, n⟩ = ⟨l + 1, n⟩ := by
        simp [Position.add_def]
      rw [Position.origin, hp, indexAt, countBefore, if_neg hc]
      rfl

/-- No character precedes a position that comes before the end of the first one. -/
theorem indexAt_cons_of_lt {c : Char} {p : Position} (t : Text)
    (h : p < Position.advance .origin c) : indexAt (c :: t) p = 0 := by
  obtain ⟨l, n⟩ := p
  by_cases hc : c = '\n'
  · subst hc
    have hl : l = 0 := by
      simp only [Position.advance_newline, Position.lt_def, Position.origin] at h
      omega
    subst hl
    cases n <;> simp [indexAt, countBefore]
  · rw [Position.advance_of_ne _ hc, Position.lt_def] at h
    obtain ⟨rfl, rfl⟩ : l = 0 ∧ n = 0 := by
      simp only [Position.origin] at h
      omega
    rfl

/-- A position precedes the end of the first character, or it is one of the rest of the text. -/
theorem lt_advance_or_eq_add (c : Char) (p : Position) :
    p < Position.advance .origin c ∨ ∃ q, p = Position.advance .origin c + q := by
  rcases lt_or_ge p (Position.advance .origin c) with hlt | hge
  · exact .inl hlt
  · exact .inr (Position.exists_eq_add_of_le hge)

theorem indexAt_le_length (t : Text) (p : Position) : t.indexAt p ≤ t.length := by
  induction t generalizing p with
  | nil => simp
  | cons c t ih =>
    rcases lt_advance_or_eq_add c p with hlt | ⟨q, rfl⟩
    · rw [indexAt_cons_of_lt t hlt]
      exact Nat.zero_le _
    · rw [indexAt_cons_add, List.length_cons]
      exact Nat.succ_le_succ (ih q)

/-- **Positions of the second of two joined texts.** All positions count, also those behind the end
of a line or of the text. -/
theorem indexAt_append_add (s t : Text) (p : Position) :
    (s ++ t).indexAt (s.endPosition + p) = s.length + t.indexAt p := by
  induction s with
  | nil => simp
  | cons c s ih =>
    rw [List.cons_append, endPosition_cons, Position.add_assoc, indexAt_cons_add, ih,
      List.length_cons]
    omega

/-- **Positions of the first of two joined texts.** -/
theorem indexAt_append_of_le {t : Text} {p : Position} (u : Text) (h : p ≤ t.endPosition) :
    (t ++ u).indexAt p = t.indexAt p := by
  induction t generalizing p with
  | nil =>
    have hp : p = .origin := le_antisymm h (Position.origin_le p)
    rw [hp, indexAt_origin, indexAt_origin]
  | cons c t ih =>
    rcases lt_advance_or_eq_add c p with hlt | ⟨q, rfl⟩
    · rw [List.cons_append, indexAt_cons_of_lt _ hlt, indexAt_cons_of_lt _ hlt]
    · rw [endPosition_cons, Position.add_le_add_iff_left] at h
      rw [List.cons_append, indexAt_cons_add, indexAt_cons_add, ih h]

/-- The whole text precedes its end and all positions behind that. -/
theorem indexAt_of_endPosition_le {t : Text} {p : Position} (h : t.endPosition ≤ p) :
    t.indexAt p = t.length := by
  induction t generalizing p with
  | nil => simp
  | cons c t ih =>
    rw [endPosition_cons] at h
    -- what is not before the end of the whole text is behind its first character
    obtain ⟨q, rfl⟩ := Position.exists_eq_add_of_le (le_trans (Position.le_add _ _) h)
    rw [indexAt_cons_add, ih ((Position.add_le_add_iff_left _ _ _).mp h), List.length_cons]

/-- Positions behind the end stand for the end. -/
theorem indexAt_min_endPosition (t : Text) (p : Position) :
    t.indexAt (min p t.endPosition) = t.indexAt p := by
  rcases le_total p t.endPosition with hle | hge
  · rw [min_eq_left hle]
  · rw [min_eq_right hge, indexAt_of_endPosition_le hge, indexAt_of_endPosition_le le_rfl]

/-! ## Bytes before a position -/

/-- The offset of a position of the second of two joined texts. -/
theorem offsetAt_append_add (s t : Text) (p : Position) :
    (s ++ t).offsetAt (s.endPosition + p) = s.byteSize + t.offsetAt p := by
  rw [offsetAt, upTo, indexAt_append_add, List.take_length_add_append, byteSize_append]
  rfl

/-- The offset of a position of the first of two joined texts. -/
theorem offsetAt_append_of_le {t : Text} {p : Position} (u : Text) (h : p ≤ t.endPosition) :
    (t ++ u).offsetAt p = t.offsetAt p := by
  rw [offsetAt, upTo, indexAt_append_of_le u h,
    List.take_append_of_le_length (indexAt_le_length t p)]
  rfl

/-- The offset of a position behind the end is that of the end. -/
theorem offsetAt_min_endPosition (t : Text) (p : Position) :
    t.offsetAt (min p t.endPosition) = t.offsetAt p := by
  rw [offsetAt, upTo, indexAt_min_endPosition]
  rfl

/-! ## Offsets between characters -/

/-- The offset lies between two characters, or at an end of the text. -/
def IsBoundary (t : Text) (b : Nat) : Prop := ∃ u v : Text, u ++ v = t ∧ u.byteSize = b

/-- Only the empty text has no bytes. -/
theorem byteSize_eq_zero_iff {t : Text} : t.byteSize = 0 ↔ t = [] := by
  cases t with
  | nil => simp
  | cons c t =>
    have hc := c.utf8Size_pos
    simp only [byteSize_cons, reduceCtorEq, iff_false]
    omega

/-- What can be dropped are the bytes of the texts with which a text begins. -/
theorem dropBytes?_eq_some_iff {t v : Text} {b : Nat} :
    t.dropBytes? b = some v ↔ ∃ u : Text, u ++ v = t ∧ u.byteSize = b := by
  induction t generalizing b with
  | nil =>
    cases b with
    | zero => simp [dropBytes?, eq_comm]
    | succ b =>
      simp only [dropBytes?, reduceCtorEq, List.append_eq_nil_iff, false_iff]
      rintro ⟨u, ⟨rfl, -⟩, hu⟩
      simp at hu
  | cons c t ih =>
    cases b with
    | zero =>
      rw [dropBytes?, Option.some.injEq]
      constructor
      · rintro rfl
        exact ⟨[], rfl, rfl⟩
      · rintro ⟨u, hu, hb⟩
        rw [byteSize_eq_zero_iff] at hb
        rw [← hu, hb, List.nil_append]
    | succ b =>
      -- a character is dropped as a whole or not at all
      show (if c.utf8Size ≤ b + 1 then dropBytes? t (b + 1 - c.utf8Size) else none) = some v ↔ _
      constructor
      · intro h
        split at h
        · next hc =>
          obtain ⟨u, rfl, hu⟩ := ih.mp h
          exact ⟨c :: u, rfl, by rw [byteSize_cons, hu]; omega⟩
        · simp at h
      · rintro ⟨u, hu, hb⟩
        cases u with
        | nil => simp at hb
        | cons d u =>
          obtain ⟨rfl, rfl⟩ := List.cons_eq_cons.mp hu
          rw [byteSize_cons] at hb
          rw [if_pos (by omega), ih]
          exact ⟨u, rfl, by omega⟩

instance (t : Text) (b : Nat) : Decidable (IsBoundary t b) :=
  decidable_of_iff ((t.dropBytes? b).isSome = true) (by
    rw [Option.isSome_iff_exists]
    simp only [dropBytes?_eq_some_iff, IsBoundary]
    exact exists_comm)

/-- All ends of texts with which a text begins are boundaries. -/
theorem isBoundary_append (u v : Text) : IsBoundary (u ++ v) u.byteSize := ⟨u, v, rfl, rfl⟩

/-- **Boundaries of joined texts.** They are those of the first text, and those of the second
moved by the size of the first. -/
theorem isBoundary_append_iff {s t : Text} {b : Nat} :
    IsBoundary (s ++ t) b ↔
      b < s.byteSize ∧ IsBoundary s b ∨ s.byteSize ≤ b ∧ IsBoundary t (b - s.byteSize) := by
  constructor
  · rintro ⟨u, v, huv, rfl⟩
    -- the text is cut in `s`, leaving `w` of it, or in `t`, behind its beginning `w`
    rcases List.append_eq_append_iff.mp huv with ⟨w, rfl, rfl⟩ | ⟨w, rfl, rfl⟩
    · rw [byteSize_append]
      -- the cut between `s` and `t` belongs to the second case of the statement
      by_cases hw : w = []
      · subst hw
        exact .inr ⟨by simp, by simpa using isBoundary_append [] t⟩
      · have hpos : byteSize w ≠ 0 := fun h => hw (byteSize_eq_zero_iff.mp h)
        exact .inl ⟨by omega, isBoundary_append u w⟩
    · rw [byteSize_append, Nat.add_sub_cancel_left]
      exact .inr ⟨by omega, isBoundary_append w v⟩
  · rintro (⟨-, u, v, rfl, rfl⟩ | ⟨hle, u, v, rfl, hu⟩)
    · exact ⟨u, v ++ t, by simp, rfl⟩
    · exact ⟨s ++ u, v, by simp, by rw [byteSize_append]; omega⟩

/-- Whole characters are taken as they are. -/
theorem takeBytes?_append_byteSize (u v : Text) : (u ++ v).takeBytes? u.byteSize = some u := by
  induction u with
  | nil => cases v <;> rfl
  | cons c u ih =>
    have hc := c.utf8Size_pos
    rw [List.cons_append, byteSize_cons, takeBytes?, if_pos (Nat.le_add_right _ _),
      Nat.add_sub_cancel_left, ih]
    · rfl
    · omega

/-- What can be taken are the texts with which a text begins. -/
theorem takeBytes?_eq_some_iff {t u : Text} {b : Nat} :
    t.takeBytes? b = some u ↔ ∃ v : Text, u ++ v = t ∧ u.byteSize = b := by
  constructor
  · intro h
    induction t generalizing b u with
    | nil =>
      cases b with
      | zero =>
        obtain rfl := Option.some.inj h
        exact ⟨[], rfl, rfl⟩
      | succ b => cases h
    | cons c t ih =>
      cases b with
      | zero =>
        obtain rfl := Option.some.inj h
        exact ⟨c :: t, rfl, rfl⟩
      | succ b =>
        -- a character is taken as a whole or not at all
        change (if c.utf8Size ≤ b + 1 then (takeBytes? t (b + 1 - c.utf8Size)).map (c :: ·)
          else none) = some u at h
        split at h
        · next hc =>
          obtain ⟨u, hu, rfl⟩ := Option.map_eq_some_iff.mp h
          obtain ⟨v, rfl, hb⟩ := ih hu
          exact ⟨v, rfl, by rw [byteSize_cons, hb]; omega⟩
        · cases h
  · rintro ⟨v, rfl, rfl⟩
    exact takeBytes?_append_byteSize u v

/-- **Pieces of a text** are the texts that it contains, by the bytes up to where they start and
stop. -/
theorem slice?_eq_some_iff {t w : Text} {start stop : Nat} :
    t.slice? start stop = some w ↔
      ∃ u v : Text, u ++ (w ++ v) = t ∧ u.byteSize = start ∧ (u ++ w).byteSize = stop := by
  rw [slice?]
  constructor
  · intro h
    split at h
    · next hle =>
      obtain ⟨rest, hdrop, htake⟩ := Option.bind_eq_some_iff.mp h
      obtain ⟨u, rfl, rfl⟩ := dropBytes?_eq_some_iff.mp hdrop
      obtain ⟨v, rfl, hw⟩ := takeBytes?_eq_some_iff.mp htake
      exact ⟨u, v, rfl, rfl, by rw [byteSize_append, hw]; omega⟩
    · cases h
  · rintro ⟨u, v, rfl, rfl, rfl⟩
    have hdrop : dropBytes? (u ++ (w ++ v)) u.byteSize = some (w ++ v) :=
      dropBytes?_eq_some_iff.mpr ⟨u, rfl, rfl⟩
    rw [byteSize_append, if_pos (Nat.le_add_right _ _), hdrop, Option.bind_some,
      Nat.add_sub_cancel_left, takeBytes?_append_byteSize]

/-- What lies between two boundaries can be cut out. -/
theorem isSome_slice? {t : Text} {start stop : Nat} (hle : start ≤ stop)
    (hstart : t.IsBoundary start) (hstop : t.IsBoundary stop) : (t.slice? start stop).isSome := by
  obtain ⟨u, v, rfl, rfl⟩ := hstart
  rcases isBoundary_append_iff.mp hstop with ⟨hlt, -⟩ | ⟨-, w, x, rfl, hw⟩
  · omega
  · have hslice : slice? (u ++ (w ++ x)) u.byteSize stop = some w :=
      slice?_eq_some_iff.mpr ⟨u, x, rfl, rfl, by rw [byteSize_append]; omega⟩
    rw [hslice, Option.isSome_some]

/-- A piece that is not empty stops behind its start. -/
theorem lt_of_slice?_eq_some {t w : Text} {start stop : Nat} (hw : w ≠ [])
    (h : t.slice? start stop = some w) : start < stop := by
  obtain ⟨u, v, -, rfl, rfl⟩ := slice?_eq_some_iff.mp h
  have hpos : w.byteSize ≠ 0 := fun hzero => hw (byteSize_eq_zero_iff.mp hzero)
  rw [byteSize_append]
  omega

/-- Of two texts with which a text begins, the one with fewer bytes begins the other. -/
theorem isPrefix_of_byteSize_le {s t u : Text} (hs : s <+: u) (ht : t <+: u)
    (h : s.byteSize ≤ t.byteSize) : s <+: t := by
  rcases List.prefix_or_prefix_of_prefix hs ht with hst | ⟨w, rfl⟩
  · exact hst
  · rw [byteSize_append] at h
    have hw : w = [] := byteSize_eq_zero_iff.mp (by omega)
    simp [hw]

/-- A text begins with one text of each size. -/
theorem eq_of_byteSize_eq {s t u : Text} (hs : s <+: u) (ht : t <+: u)
    (h : s.byteSize = t.byteSize) : s = t := by
  have hst := isPrefix_of_byteSize_le hs ht (Nat.le_of_eq h)
  have hts := isPrefix_of_byteSize_le ht hs (Nat.le_of_eq h.symm)
  exact hst.eq_of_length_le hts.length_le

/-! ## Positions of offsets -/

/-- The characters before an offset of the second of two joined texts. -/
theorem charsBefore_append_add (s t : Text) (b : Nat) :
    (s ++ t).charsBefore (s.byteSize + b) = s ++ t.charsBefore b := by
  induction s with
  | nil => simp
  | cons c s ih =>
    have hc := c.utf8Size_pos
    rw [List.cons_append, charsBefore, byteSize_cons, if_neg (by omega), Nat.add_assoc,
      Nat.add_sub_cancel_left, ih, List.cons_append]

@[simp] theorem charsBefore_zero (t : Text) : t.charsBefore 0 = [] := by
  cases t <;> rfl

/-- The characters before the end of a text with which another one begins are that text. -/
theorem charsBefore_append_byteSize (u v : Text) : (u ++ v).charsBefore u.byteSize = u := by
  have h := charsBefore_append_add u v 0
  rwa [Nat.add_zero, charsBefore_zero, List.append_nil] at h

theorem charsBefore_isPrefix (t : Text) (b : Nat) : t.charsBefore b <+: t := by
  induction t generalizing b with
  | nil => exact List.prefix_rfl
  | cons c t ih =>
    rw [charsBefore]
    split
    · exact List.nil_prefix
    · exact List.cons_prefix_cons.mpr ⟨rfl, ih _⟩

/-- Before a later offset are at least the characters before an earlier one. -/
theorem charsBefore_isPrefix_of_le (t : Text) {b b' : Nat} (h : b ≤ b') :
    t.charsBefore b <+: t.charsBefore b' := by
  induction t generalizing b b' with
  | nil => exact List.prefix_rfl
  | cons c t ih =>
    rw [charsBefore, charsBefore]
    by_cases hb : b = 0
    · rw [if_pos hb]
      exact List.nil_prefix
    · rw [if_neg hb, if_neg (by omega)]
      exact List.cons_prefix_cons.mpr ⟨rfl, ih (by omega)⟩

/-- The first offset is that of the start. -/
@[simp] theorem positionAt_zero (t : Text) : t.positionAt 0 = .origin := by
  rw [positionAt, charsBefore_zero, endPosition_nil]

/-- The position of an offset of the second of two joined texts. -/
theorem positionAt_append_add (s t : Text) (b : Nat) :
    (s ++ t).positionAt (s.byteSize + b) = s.endPosition + t.positionAt b := by
  rw [positionAt, charsBefore_append_add, endPosition_append]
  rfl

/-- The characters before an offset of the first of two joined texts. -/
theorem charsBefore_append_of_le {t : Text} {b : Nat} (u : Text) (h : b ≤ t.byteSize) :
    (t ++ u).charsBefore b = t.charsBefore b := by
  induction t generalizing b with
  | nil =>
    rw [byteSize_nil, Nat.le_zero] at h
    rw [h, charsBefore_zero, charsBefore_zero]
  | cons c t ih =>
    rw [byteSize_cons] at h
    rw [List.cons_append, charsBefore, charsBefore, ih (by omega)]

/-- The position of an offset of the first of two joined texts. -/
theorem positionAt_append_of_le {t : Text} {b : Nat} (u : Text) (h : b ≤ t.byteSize) :
    (t ++ u).positionAt b = t.positionAt b := by
  rw [positionAt, charsBefore_append_of_le u h]
  rfl

/-- The offset behind a text with which another one begins has the position of its end. -/
theorem positionAt_append_byteSize (u v : Text) :
    (u ++ v).positionAt u.byteSize = u.endPosition := by
  rw [positionAt, charsBefore_append_byteSize]

/-- No offset has a position behind the end. -/
theorem positionAt_le_endPosition (t : Text) (b : Nat) : t.positionAt b ≤ t.endPosition :=
  endPosition_le_of_isPrefix (charsBefore_isPrefix t b)

/-- Positions stand in the order of their offsets. -/
theorem positionAt_le_positionAt (t : Text) {b b' : Nat} (h : b ≤ b') :
    t.positionAt b ≤ t.positionAt b' :=
  endPosition_le_of_isPrefix (charsBefore_isPrefix_of_le t h)

/-- Ranges contain each other as their offsets do. -/
theorem rangeAt_within (t : Text) {start stop start' stop' : Nat} (hstart : start' ≤ start)
    (h : start ≤ stop) (hstop : stop ≤ stop') :
    (t.rangeAt start stop).Within (t.rangeAt start' stop') :=
  ⟨t.positionAt_le_positionAt hstart, t.positionAt_le_positionAt h,
    t.positionAt_le_positionAt hstop⟩

/-- The boundaries before the end have positions before the end. -/
theorem positionAt_lt_endPosition {t : Text} {b : Nat} (hb : t.IsBoundary b)
    (hlt : b < t.byteSize) : t.positionAt b < t.endPosition := by
  obtain ⟨u, v, rfl, rfl⟩ := hb
  have hv : v ≠ [] := by
    rintro rfl
    simp at hlt
  rw [positionAt, charsBefore_append_byteSize]
  exact endPosition_lt_append u hv

/-- Different boundaries have different positions, in the same order. -/
theorem positionAt_lt_positionAt {t : Text} {b b' : Nat} (hb : t.IsBoundary b)
    (hb' : t.IsBoundary b') (h : b < b') : t.positionAt b < t.positionAt b' := by
  obtain ⟨u, v, rfl, rfl⟩ := hb'
  have hbu : u.IsBoundary b := by
    rcases isBoundary_append_iff.mp hb with ⟨-, hbu⟩ | ⟨hle, -⟩
    · exact hbu
    · omega
  rw [positionAt_append_of_le v (Nat.le_of_lt h), positionAt_append_byteSize]
  exact positionAt_lt_endPosition hbu h

/-- Only the offset `0` of a text that is not empty has the position of the start. -/
theorem origin_lt_positionAt {t : Text} {b : Nat} (ht : t ≠ []) (hb : 0 < b) :
    Position.origin < t.positionAt b := by
  obtain ⟨c, u, rfl⟩ := List.exists_cons_of_ne_nil ht
  refine origin_lt_endPosition ?_
  rw [charsBefore, if_neg (by omega)]
  exact List.cons_ne_nil _ _

end Text

end CssFragments
