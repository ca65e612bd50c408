import CssFragments.Sheet.CustomProperty
import Mathlib.Data.Char
import Mathlib.Data.List.Lex

/-! # The order of texts

Texts are put in order by their characters, and these by their code points. The bytes of their UTF-8
form would give the same order: a character with a larger code point starts with a larger byte, or
with the same bytes up to a larger one.

* `Text.precedes_iff`: the order in which names are listed.
* `Text.mem_insertInto`, `Text.pairwise_insertInto`: lists of texts that are in order.
* `Text.utf8`, `Text.utf8_lt_utf8_iff`: the order of the bytes. -/

namespace CssFragments

namespace Text

/-! ## Lists of texts -/

/-- One text precedes another one in the lexicographic order of the characters. -/
theorem precedes_iff {s t : Text} : s.precedes t ↔ s < t := by
  induction s generalizing t with
  | nil => cases t <;> simp [precedes]
  | cons a s ih =>
    cases t with
    | nil => simp [precedes]
    | cons b t =>
      have hab : a.toNat < b.toNat ↔ a < b := Iff.rfl
      simp [precedes, List.cons_lt_cons_iff, ih, hab]

/-- Nothing but the text is added. -/
theorem mem_insertInto {t u : Text} {us : List Text} : u ∈ t.insertInto us ↔ u = t ∨ u ∈ us := by
  induction us with
  | nil => simp [insertInto]
  | cons v rest ih =>
    rw [insertInto]
    split
    · exact List.mem_cons
    · split
      · next htv =>
        subst htv
        simp
      · simp [ih, or_left_comm]

/-- A list in which each text precedes all later ones stays like that. -/
theorem pairwise_insertInto {t : Text} {us : List Text} (h : us.Pairwise (· < ·)) :
    (t.insertInto us).Pairwise (· < ·) := by
  induction us with
  | nil => exact List.pairwise_singleton _ _
  | cons v rest ih =>
    obtain ⟨hv, hrest⟩ := List.pairwise_cons.mp h
    rw [insertInto]
    split
    · next htv =>
      -- what precedes the first text precedes all
      have htv : t < v := precedes_iff.mp htv
      refine List.pairwise_cons.mpr ⟨fun u hu => ?_, h⟩
      rcases List.mem_cons.mp hu with rfl | hu
      · exact htv
      · exact htv.trans (hv u hu)
    · next htv =>
      split
      · exact h
      · next hne =>
        have hvt : v < t := lt_of_le_of_ne (not_lt.mp (precedes_iff.not.mp htv)) (Ne.symm hne)
        refine List.pairwise_cons.mpr ⟨fun u hu => ?_, ih hrest⟩
        rcases mem_insertInto.mp hu with rfl | hu
        · exact hvt
        · exact hv u hu

/-! ## Bytes -/

/-- The UTF-8 form of a text. -/
def utf8 (t : Text) : List UInt8 := t.flatMap String.utf8EncodeChar

/-- The digit of a number to base 64 in front of the last `k`. -/
def leadingDigit : Nat → Nat → Nat
  | 0, v => v
  | k + 1, v => leadingDigit k (v / 64)

/-- A byte for the leading digit of a number, which is added to `mark`, and one for each of the last
`k` digits. -/
def spread (mark : Nat) : Nat → Nat → List UInt8
  | 0, v => [UInt8.ofNat (mark + v)]
  | k + 1, v => spread mark k (v / 64) ++ [UInt8.ofNat (128 + v % 64)]

theorem ofNat_lt_ofNat {a b : Nat} (hab : a < b) (hb : b < 256) :
    UInt8.ofNat a < UInt8.ofNat b := by
  rw [UInt8.lt_iff_toNat_lt, UInt8.toNat_ofNat_of_lt' hb, UInt8.toNat_ofNat_of_lt' (hab.trans hb)]
  exact hab

/-- The first byte is that of the leading digit. -/
theorem exists_spread_eq (mark k v : Nat) :
    ∃ rest, spread mark k v = UInt8.ofNat (mark + leadingDigit k v) :: rest := by
  induction k generalizing v with
  | zero => exact ⟨[], rfl⟩
  | succ k ih =>
    obtain ⟨rest, hrest⟩ := ih (v / 64)
    exact ⟨_, by rw [spread, hrest, leadingDigit, List.cons_append]⟩

/-- **Of two numbers of as many digits**, the smaller one has the smaller bytes, whatever
follows. -/
theorem spread_append_lt {mark k v w : Nat} (h : v < w) (hw : mark + leadingDigit k w < 256)
    (x y : List UInt8) : spread mark k v ++ x < spread mark k w ++ y := by
  induction k generalizing v w x y with
  | zero => exact List.cons_lt_cons_iff.mpr (.inl (ofNat_lt_ofNat (Nat.add_lt_add_left h mark) hw))
  | succ k ih =>
    rw [spread, spread, List.append_assoc, List.append_assoc]
    -- the digits in front of the last one decide, unless they are the same
    rcases Nat.lt_or_ge (v / 64) (w / 64) with hlt | hge
    · exact ih hlt hw _ _
    · obtain ⟨heq, hlast⟩ : v / 64 = w / 64 ∧ 128 + v % 64 < 128 + w % 64 := by omega
      rw [heq]
      refine List.append_left_lt (List.cons_lt_cons_iff.mpr (.inl ?_))
      exact ofNat_lt_ofNat hlast (by omega)

/-- A larger leading digit makes larger bytes, whatever follows. -/
theorem spread_append_lt_of_lead {mark mark' k k' v w : Nat}
    (h : mark + leadingDigit k v < mark' + leadingDigit k' w)
    (hw : mark' + leadingDigit k' w < 256) (x y : List UInt8) :
    spread mark k v ++ x < spread mark' k' w ++ y := by
  obtain ⟨rest, hrest⟩ := exists_spread_eq mark k v
  obtain ⟨rest', hrest'⟩ := exists_spread_eq mark' k' w
  rw [hrest, hrest', List.cons_append, List.cons_append]
  exact List.cons_lt_cons_iff.mpr (.inl (ofNat_lt_ofNat h hw))

/-- The mark of the first byte of a character by its code point, and how many bytes follow it. -/
def marking (v : Nat) : Nat × Nat :=
  if v ≤ 127 then (0, 0)
  else if v ≤ 2047 then (192, 1)
  else if v ≤ 65535 then (224, 2)
  else (240, 3)

/-- The last code point is `10FFFF` in hexadecimal notation. -/
theorem toNat_lt (c : Char) : c.val.toNat < 1114112 := by
  rcases c.valid with h | ⟨-, h⟩
  · exact h.trans (by decide)
  · exact h

/-- **The bytes of a character** are the digits of its code point. -/
theorem utf8EncodeChar_eq (c : Char) :
    String.utf8EncodeChar c =
      spread (marking c.val.toNat).1 (marking c.val.toNat).2 c.val.toNat := by
  have hc := toNat_lt c
  unfold String.utf8EncodeChar marking
  generalize c.val.toNat = v at hc
  dsimp only
  split_ifs
  · simp [spread]
  · have hlead : v / 64 % 32 = v / 64 := by omega
    simp [spread, hlead, Nat.add_comm]
  · have hlead : v / 4096 % 16 = v / 4096 := by omega
    simp [spread, hlead, Nat.add_comm, Nat.div_div_eq_div_mul]
  · have hlead : v / 262144 % 8 = v / 262144 := by omega
    simp [spread, hlead, Nat.add_comm, Nat.div_div_eq_div_mul]

/-- The first byte of a character is a byte. -/
theorem mark_add_leadingDigit_lt {w : Nat} (hw : w < 1114112) :
    (marking w).1 + leadingDigit (marking w).2 w < 256 := by
  unfold marking
  split_ifs <;> simp only [leadingDigit] <;> omega

/-- Of two characters, the larger one has as many bytes, or a larger first byte. -/
theorem marking_eq_or_lt {v w : Nat} (h : v < w) :
    marking v = marking w ∨ (marking v).1 + leadingDigit (marking v).2 v <
      (marking w).1 + leadingDigit (marking w).2 w := by
  by_cases heq : marking v = marking w
  · exact .inl heq
  · right
    -- the marks differ, so the two lie in different ranges of code points
    revert heq
    unfold marking
    split_ifs <;> simp [leadingDigit] <;> omega

/-- **Characters in order have bytes in order**, whatever follows. -/
theorem utf8EncodeChar_append_lt {c d : Char} (h : c < d) (x y : List UInt8) :
    String.utf8EncodeChar c ++ x < String.utf8EncodeChar d ++ y := by
  have hcd : c.val.toNat < d.val.toNat := h
  have hd := mark_add_leadingDigit_lt (toNat_lt d)
  rw [utf8EncodeChar_eq, utf8EncodeChar_eq]
  rcases marking_eq_or_lt hcd with heq | hlt
  · rw [heq]
    exact spread_append_lt hcd hd x y
  · exact spread_append_lt_of_lead hlt hd x y

/-- Texts in order have bytes in order. -/
theorem utf8_lt_utf8 {s t : Text} (h : s < t) : s.utf8 < t.utf8 := by
  induction s generalizing t with
  | nil =>
    cases t with
    | nil => exact absurd h (List.lt_irrefl _)
    | cons b t =>
      obtain ⟨byte, rest, hb⟩ := List.exists_cons_of_ne_nil (String.utf8EncodeChar_ne_nil (c := b))
      rw [utf8, utf8, List.flatMap_nil, List.flatMap_cons, hb]
      exact List.nil_lt_cons _ _
  | cons a s ih =>
    cases t with
    | nil => cases h
    | cons b t =>
      rcases List.cons_lt_cons_iff.mp h with hab | ⟨rfl, hst⟩
      · exact utf8EncodeChar_append_lt hab _ _
      · exact List.append_left_lt (ih hst)

/-- **The order of texts is that of their bytes.** -/
theorem utf8_lt_utf8_iff {s t : Text} : s.utf8 < t.utf8 ↔ s < t := by
  refine ⟨fun h => ?_, utf8_lt_utf8⟩
  rcases lt_trichotomy s t with hlt | rfl | hgt
  · exact hlt
  · exact absurd h (List.lt_irrefl _)
  · exact absurd h (List.lt_asymm (utf8_lt_utf8 hgt))

end Text

end CssFragments
