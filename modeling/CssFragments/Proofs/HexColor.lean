import CssFragments.Color.Basic
import CssFragments.Editor.Operation
import CssFragments.Proofs.Opacity
import CssFragments.Proofs.Text.Offset
import CssFragments.Text.Blank
import Mathlib.Data.List.Forall2

/-! # Hexadecimal notation

A color is written with one or two hexadecimal digits for each of its parts. What can be read is
exactly this, in either case and with or without a number sign, and what is written for a color is
read back.

The digits of a part can be cut out of the text by their bytes. A character of more than one byte is
never cut in two, since all characters are looked at before.

* `Hex.IsDigit`, `Hex.isSome_digit?_iff`: the characters that are read as digits.
* `Color.IsHex`, `Color.isSome_ofHex?_iff`: the texts that are read as colors.
* `Color.ofHexBytes`, `Color.ofHexBytes_eq`: the same reader, with the parts cut out by their bytes.
* `Color.ofHex?_toLower`, `Color.ofHex?_doubled`: spellings of the same color.
* `Color.ofHex?_hex`, `Color.ofHex?_hexWithAlpha`: what is written is read back.
* `Color.hexadecimal_notation`: all of this in one statement. -/

namespace CssFragments

/-! ## Digits -/

namespace Hex

/-- A digit or one of the first six letters, in either case. -/
def IsDigit (c : Char) : Prop := c ∈ "0123456789abcdefABCDEF".toList

instance : DecidablePred IsDigit := fun c => inferInstanceAs (Decidable (c ∈ _))

/-- What holds of the characters of one byte, looked at one by one, and of all others. -/
theorem forall_char {P : Char → Prop} (hlow : ∀ n < 128, P (Char.ofNat n))
    (hhigh : ∀ c : Char, 128 ≤ c.toNat → P c) (c : Char) : P c := by
  rcases Nat.lt_or_ge c.toNat 128 with hlt | hge
  · rw [← c.ofNat_toNat]
    exact hlow _ hlt
  · exact hhigh c hge

theorem digit?_of_le {c : Char} (h : 128 ≤ c.toNat) : digit? c = none := by
  have hle (d : Char) (hd : d.toNat < 128) : ¬ c ≤ d := by
    intro hcd
    have hnat : c.toNat ≤ d.toNat := hcd
    omega
  have hdigit : c.isDigit = false := by
    rw [Char.isDigit, Bool.and_eq_false_iff]
    exact .inr (decide_eq_false (hle '9' (by decide)))
  simp [digit?, hdigit, hle 'f' (by decide), hle 'F' (by decide)]

/-- Only basic Latin letters have a lower case. -/
theorem toLower_of_le {c : Char} (h : 128 ≤ c.toNat) : c.toLower = c := by
  refine dif_neg ?_
  rintro ⟨-, hle⟩
  have hnat : c.toNat ≤ 90 := hle
  omega

/-- **The characters that are read as digits.** -/
theorem isSome_digit?_iff (c : Char) : (digit? c).isSome ↔ IsDigit c := by
  refine forall_char (P := fun c => (digit? c).isSome ↔ IsDigit c) (by decide +kernel) ?_ c
  intro c hc
  have hall : ("0123456789abcdefABCDEF".toList.all fun d => d.toNat < 128) = true := by decide
  have hnot : ¬ IsDigit c := fun h => by
    have hlt := of_decide_eq_true (List.all_eq_true.mp hall c h)
    omega
  simp [digit?_of_le hc, hnot]

/-- The case of a digit does not matter. -/
theorem digit?_toLower (c : Char) : digit? c.toLower = digit? c := by
  refine forall_char (P := fun c => digit? c.toLower = digit? c) (by decide +kernel) ?_ c
  intro c hc
  rw [toLower_of_le hc]

/-- Nothing but the number sign has it as its lower case. -/
theorem toLower_eq_numberSign_iff (c : Char) : c.toLower = '#' ↔ c = '#' := by
  refine forall_char (P := fun c => c.toLower = '#' ↔ c = '#') (by decide +kernel) ?_ c
  intro c hc
  rw [toLower_of_le hc]

/-- The value of a digit is less than the base. -/
theorem lt_of_digit? {c : Char} {n : Nat} (h : digit? c = some n) : n < 16 := by
  have hall : ∀ c, ∀ n ∈ digit? c, n < 16 := by
    refine forall_char (by decide +kernel) fun c hc n hn => ?_
    rw [digit?_of_le hc] at hn
    cases hn
  exact hall c n h

/-- Digits are characters of one byte. -/
theorem utf8Size_of_digit? {c : Char} (h : (digit? c).isSome) : c.utf8Size = 1 := by
  rw [Char.utf8Size_eq_one_iff]
  by_contra hlt
  have hnat : ¬ c.toNat ≤ 127 := hlt
  rw [digit?_of_le (by omega)] at h
  cases h

/-- Digits are read one by one. -/
theorem mapM_digit?_eq_some_iff {t : Text} {ds : List Nat} :
    t.mapM digit? = some ds ↔ List.Forall₂ (fun c d => digit? c = some d) t ds := by
  induction t generalizing ds with
  | nil => simp [eq_comm]
  | cons c t ih =>
    simp only [List.mapM_cons, Option.bind_eq_bind, Option.bind_eq_some_iff, Option.pure_def,
      Option.some.injEq, List.forall₂_cons_left_iff, ih, eq_comm (a := ds), exists_and_left]

theorem mapM_digit?_eq_some {t : Text} {ds : List Nat} (h : t.mapM digit? = some ds) :
    ds.length = t.length ∧ ∀ c ∈ t, (digit? c).isSome := by
  have hdigits := mapM_digit?_eq_some_iff.mp h
  refine ⟨hdigits.length_eq.symm, ?_⟩
  clear h
  induction hdigits with
  | nil => simp
  | cons hd _ ih => exact List.forall_mem_cons.mpr ⟨by simp [hd], ih⟩

theorem exists_mapM_digit? {t : Text} (h : ∀ c ∈ t, (digit? c).isSome) :
    ∃ ds, t.mapM digit? = some ds := by
  induction t with
  | nil => exact ⟨[], rfl⟩
  | cons c t ih =>
    obtain ⟨hc, ht⟩ := List.forall_mem_cons.mp h
    obtain ⟨d, hd⟩ := Option.isSome_iff_exists.mp hc
    obtain ⟨ds, hds⟩ := ih ht
    exact ⟨d :: ds, by simp [List.mapM_cons, hd, hds]⟩

/-- The two digits of a byte are read back. -/
theorem mapM_digit?_pair (b : UInt8) :
    (pair b).mapM digit? = some [b.toNat / 16, b.toNat % 16] := by
  have hread : ∀ n < 16, digit? (Nat.digitChar n) = some n := by decide
  have hlt := b.toNat_lt
  simp [pair, List.mapM_cons, hread (b.toNat / 16) (by omega), hread (b.toNat % 16) (by omega)]

@[simp] theorem byte_div_mod (b : UInt8) : byte (b.toNat / 16) (b.toNat % 16) = b := by
  rw [byte, Nat.div_add_mod, UInt8.ofNat_toNat]

end Hex

namespace Color

/-! ## What can be read -/

/-- Three, four, six or eight hexadecimal digits, with or without a number sign before them. -/
def IsHex (t : Text) : Prop :=
  ∃ digits : Text, (t = digits ∨ t = '#' :: digits) ∧ digits.length ∈ [3, 4, 6, 8] ∧
    ∀ d ∈ digits, (Hex.digit? d).isSome

theorem isSome_ofHexDigits?_iff {ds : List Nat} :
    (ofHexDigits? ds).isSome ↔ ds.length ∈ [3, 4, 6, 8] := by
  -- one case for each length up to eight, and one for all that are longer
  obtain _ | ⟨_, _ | ⟨_, _ | ⟨_, _ | ⟨_, _ | ⟨_, _ | ⟨_, _ | ⟨_, _ | ⟨_, _ | ⟨_, _⟩⟩⟩⟩⟩⟩⟩⟩⟩ :=
    ds <;> simp [ofHexDigits?]

theorem eq_or_eq_cons_dropNumberSign (t : Text) :
    t = dropNumberSign t ∨ t = '#' :: dropNumberSign t := by
  unfold dropNumberSign
  split
  · exact .inr rfl
  · exact .inl rfl

theorem dropNumberSign_of_head {t : Text} (h : t.head? ≠ some '#') : dropNumberSign t = t := by
  unfold dropNumberSign
  split
  · exact absurd rfl h
  · rfl

/-- The number sign is not a digit. -/
theorem dropNumberSign_of_digits {t : Text} (h : ∀ d ∈ t, (Hex.digit? d).isSome) :
    dropNumberSign t = t := by
  refine dropNumberSign_of_head fun hhead => ?_
  exact absurd (h '#' (List.mem_of_mem_head? hhead)) (by decide)

/-- **Hexadecimal notation** is read in all its lengths, and nothing else is. -/
theorem isSome_ofHex?_iff {t : Text} : (ofHex? t).isSome ↔ IsHex t := by
  constructor
  · intro h
    obtain ⟨c, hc⟩ := Option.isSome_iff_exists.mp h
    obtain ⟨ds, hds, hcolor⟩ := Option.bind_eq_some_iff.mp hc
    obtain ⟨hlength, hdigits⟩ := Hex.mapM_digit?_eq_some hds
    refine ⟨dropNumberSign t, eq_or_eq_cons_dropNumberSign t, ?_, hdigits⟩
    rw [← hlength]
    exact isSome_ofHexDigits?_iff.mp (by rw [hcolor]; rfl)
  · rintro ⟨digits, ht, hlength, hdigits⟩
    have hdrop : dropNumberSign t = digits := by
      rcases ht with rfl | rfl
      · exact dropNumberSign_of_digits hdigits
      · rfl
    obtain ⟨ds, hds⟩ := Hex.exists_mapM_digit? hdigits
    rw [ofHex?, hdrop, hds]
    exact isSome_ofHexDigits?_iff.mpr ((Hex.mapM_digit?_eq_some hds).1 ▸ hlength)

theorem IsHex.ne_nil {t : Text} (h : IsHex t) : t ≠ [] := by
  rintro rfl
  exact absurd (isSome_ofHex?_iff.mpr h) (by simp [ofHex?, dropNumberSign, ofHexDigits?])

/-! ## Spellings of the same color -/

theorem dropNumberSign_toLower (t : Text) :
    dropNumberSign t.toLower = (dropNumberSign t).toLower := by
  cases t with
  | nil => rfl
  | cons c t =>
    by_cases hc : c = '#'
    · subst hc
      rfl
    · have hhead : (c :: t).head? ≠ some '#' := by simpa using hc
      have hhead' : (Text.toLower (c :: t)).head? ≠ some '#' := by
        simpa [Text.toLower, Hex.toLower_eq_numberSign_iff] using hc
      rw [dropNumberSign_of_head hhead, dropNumberSign_of_head hhead']

/-- Capital letters do not matter. -/
theorem ofHex?_toLower (t : Text) : ofHex? t.toLower = ofHex? t := by
  have hdigits (d : Text) : d.toLower.mapM Hex.digit? = d.mapM Hex.digit? := by
    rw [Text.toLower, List.mapM_map]
    exact congrArg d.mapM (funext Hex.digit?_toLower)
  rw [ofHex?, ofHex?, dropNumberSign_toLower, hdigits]

/-- Digits that are written twice are read twice. -/
theorem mapM_digit?_doubled {t : Text} {ds : List Nat} (h : t.mapM Hex.digit? = some ds) :
    (t.flatMap fun c => [c, c]).mapM Hex.digit? = some (ds.flatMap fun d => [d, d]) := by
  rw [Hex.mapM_digit?_eq_some_iff] at h ⊢
  induction h with
  | nil => exact .nil
  | cons hd _ ih => exact .cons hd (.cons hd ih)

theorem ofHexDigits?_doubled {ds : List Nat} (h : ds.length ∈ [3, 4]) :
    ofHexDigits? (ds.flatMap fun d => [d, d]) = ofHexDigits? ds := by
  obtain _ | ⟨_, _ | ⟨_, _ | ⟨_, _ | ⟨_, _ | ⟨_, _⟩⟩⟩⟩⟩ := ds <;> simp_all [ofHexDigits?]

/-- **One digit for each part** is as good as the same digit twice. -/
theorem ofHex?_doubled {digits : Text} (hlength : digits.length ∈ [3, 4])
    (hdigits : ∀ d ∈ digits, (Hex.digit? d).isSome) :
    ofHex? (digits.flatMap fun d => [d, d]) = ofHex? digits := by
  obtain ⟨ds, hds⟩ := Hex.exists_mapM_digit? hdigits
  have hdoubled := mapM_digit?_doubled hds
  have hds' : ds.length ∈ [3, 4] := by rwa [(Hex.mapM_digit?_eq_some hds).1]
  rw [ofHex?, ofHex?, dropNumberSign_of_digits (Hex.mapM_digit?_eq_some hdoubled).2,
    dropNumberSign_of_digits hdigits, hdoubled, hds]
  exact ofHexDigits?_doubled hds'

/-! ## What is written -/

/-- What is written without the opacity is read as a color that nothing shows through. -/
theorem ofHex?_hex (c : Color) : ofHex? c.hex = some (solid c.red c.green c.blue) := by
  have hdigits : (dropNumberSign c.hex).mapM Hex.digit? =
      some [c.red.toNat / 16, c.red.toNat % 16, c.green.toNat / 16, c.green.toNat % 16,
        c.blue.toNat / 16, c.blue.toNat % 16] := by
    simp [hex, dropNumberSign, List.mapM_append, Hex.mapM_digit?_pair]
  rw [ofHex?, hdigits, Option.bind_some, ofHexDigits?]
  simp only [Hex.byte_div_mod]

/-- What is written with the opacity is read with the opacity as a byte. -/
theorem ofHex?_hexWithAlpha (c : Color) :
    ofHex? c.hexWithAlpha = some ⟨c.red, c.green, c.blue, fraction c.alphaByte⟩ := by
  have hdigits : (dropNumberSign c.hexWithAlpha).mapM Hex.digit? =
      some [c.red.toNat / 16, c.red.toNat % 16, c.green.toNat / 16, c.green.toNat % 16,
        c.blue.toNat / 16, c.blue.toNat % 16, c.alphaByte.toNat / 16, c.alphaByte.toNat % 16] := by
    simp [hexWithAlpha, hex, dropNumberSign, List.mapM_append, Hex.mapM_digit?_pair]
  rw [ofHex?, hdigits, Option.bind_some, ofHexDigits?]
  simp only [Hex.byte_div_mod]

/-! ## Digits by their bytes -/

/-- The byte that is written by hexadecimal digits, if it is not too large; a plus sign may stand
before them. -/
def byteOf? (t : Text) : Option UInt8 :=
  let digits := match t with
    | '+' :: d :: rest => d :: rest
    | t => t
  if digits.isEmpty then none
  else (digits.mapM Hex.digit?).bind fun ds =>
    let n := ds.foldl (fun n d => 16 * n + d) 0
    if n < 256 then some (UInt8.ofNat n) else none

/-- The part of a color with the number `i`. Its digits, `width` of them, are cut out by their
bytes; a single digit is taken twice. It is a failure to cut a character in two. -/
def partAt (digits : Text) (width i : Nat) : OptionT (Except Failure) UInt8 :=
  match digits.slice? (width * i) (width * i + width) with
  | some piece => OptionT.mk (.ok (byteOf? (if width = 1 then piece ++ piece else piece)))
  | none => OptionT.mk (.error .splitCharacter)

/-- Reads hexadecimal notation by the bytes of its digits. All characters are looked at before the
first of them is cut out, and the number of bytes tells how many digits there are for each part. -/
def ofHexBytes (t : Text) : OptionT (Except Failure) Color :=
  let digits := dropNumberSign t
  let part := partAt digits
  if digits.all (Hex.digit? · |>.isSome) then
    match digits.byteSize with
    | 3 => return solid (← part 1 0) (← part 1 1) (← part 1 2)
    | 4 => return ⟨← part 1 0, ← part 1 1, ← part 1 2, fraction (← part 1 3)⟩
    | 6 => return solid (← part 2 0) (← part 2 1) (← part 2 2)
    | 8 => return ⟨← part 2 0, ← part 2 1, ← part 2 2, fraction (← part 2 3)⟩
    | _ => failure
  else failure

theorem byteOf?_of_digits {t : Text} {m n : Nat} (h : t.mapM Hex.digit? = some [m, n]) :
    byteOf? t = some (Hex.byte m n) := by
  obtain ⟨hlength, -⟩ := Hex.mapM_digit?_eq_some h
  obtain ⟨a, b, rfl⟩ := List.length_eq_two.mp hlength.symm
  obtain ⟨ha, hb⟩ : Hex.digit? a = some m ∧ Hex.digit? b = some n := by
    simpa using Hex.mapM_digit?_eq_some_iff.mp h
  have hplus : a ≠ '+' := by
    rintro rfl
    cases ha
  have hlt : 16 * m + n < 256 := by
    have hm := Hex.lt_of_digit? ha
    have hn := Hex.lt_of_digit? hb
    omega
  simp [byteOf?, hplus, h, hlt, Hex.byte]

/-- Digits have as many bytes as characters. -/
theorem byteSize_of_digits {t : Text} (h : ∀ c ∈ t, (Hex.digit? c).isSome) :
    t.byteSize = t.length := by
  induction t with
  | nil => rfl
  | cons c t ih =>
    obtain ⟨hc, ht⟩ := List.forall_mem_cons.mp h
    rw [Text.byteSize_cons, Hex.utf8Size_of_digit? hc, ih ht, List.length_cons, Nat.add_comm]

/-- **Digits can be cut out anywhere.** -/
theorem slice?_of_digits {t : Text} (h : ∀ c ∈ t, (Hex.digit? c).isSome) {start width : Nat}
    (hstop : start + width ≤ t.length) :
    t.slice? start (start + width) = some ((t.drop start).take width) := by
  -- what is in front of the piece, and the piece itself, have as many bytes as characters
  refine Text.slice?_eq_some_iff.mpr
    ⟨t.take start, (t.drop start).drop width, ?_, ?_, ?_⟩
  · rw [List.take_append_drop, List.take_append_drop]
  · rw [byteSize_of_digits fun c hc => h c (List.mem_of_mem_take hc), List.length_take]
    omega
  · rw [Text.byteSize_append, byteSize_of_digits fun c hc => h c (List.mem_of_mem_take hc),
      byteSize_of_digits fun c hc => h c (List.mem_of_mem_drop (List.mem_of_mem_take hc)),
      List.length_take, List.length_take, List.length_drop]
    omega

/-- A part that is there is read without a failure. Its two digits are cut out of the list of all
digits like those of the text. -/
theorem partAt_of_digits {t : Text} {ds : List Nat} (h : t.mapM Hex.digit? = some ds)
    {width i m n : Nat} (hstop : width * i + width ≤ ds.length)
    (hpart : (if width = 1 then (ds.drop (width * i)).take width ++ (ds.drop (width * i)).take width
      else (ds.drop (width * i)).take width) = [m, n]) :
    partAt t width i = pure (Hex.byte m n) := by
  obtain ⟨hlength, hdigits⟩ := Hex.mapM_digit?_eq_some h
  have hpiece : ((t.drop (width * i)).take width).mapM Hex.digit? =
      some ((ds.drop (width * i)).take width) :=
    Hex.mapM_digit?_eq_some_iff.mpr
      (List.forall₂_take _ (List.forall₂_drop _ (Hex.mapM_digit?_eq_some_iff.mp h)))
  rw [partAt, slice?_of_digits hdigits (hlength ▸ hstop)]
  dsimp only
  rw [byteOf?_of_digits (m := m) (n := n)]
  · rfl
  · rw [← hpart]
    split
    · rw [List.mapM_append, hpiece]
      rfl
    · exact hpiece

/-- **Nothing is cut in two,** and the bytes tell the same color as the characters. -/
theorem ofHexBytes_eq (t : Text) : (ofHexBytes t).run = .ok (ofHex? t) := by
  rw [ofHexBytes, ofHex?]
  generalize dropNumberSign t = digits
  by_cases h : ∀ c ∈ digits, (Hex.digit? c).isSome
  · obtain ⟨ds, hds⟩ := Hex.exists_mapM_digit? h
    rw [if_pos (List.all_eq_true.mpr h), byteSize_of_digits h, ← (Hex.mapM_digit?_eq_some hds).1,
      hds, Option.bind_some]
    have hpart {width i m n : Nat} := @partAt_of_digits digits ds hds width i m n
    -- one case for each length up to eight, and one for all that are longer
    obtain _ | ⟨_, _ | ⟨_, _ | ⟨_, _ | ⟨_, _ | ⟨_, _ | ⟨_, _ | ⟨_, _ | ⟨_, _ | ⟨_, _⟩⟩⟩⟩⟩⟩⟩⟩⟩ := ds
    · rfl
    · rfl
    · rfl
    · simp only [List.length_cons, List.length_nil]
      rw [hpart (by simp) rfl, hpart (by simp) rfl, hpart (by simp) rfl]
      rfl
    · simp only [List.length_cons, List.length_nil]
      rw [hpart (by simp) rfl, hpart (by simp) rfl, hpart (by simp) rfl, hpart (by simp) rfl]
      rfl
    · rfl
    · simp only [List.length_cons, List.length_nil]
      rw [hpart (by simp) rfl, hpart (by simp) rfl, hpart (by simp) rfl]
      rfl
    · rfl
    · simp only [List.length_cons, List.length_nil]
      rw [hpart (by simp) rfl, hpart (by simp) rfl, hpart (by simp) rfl, hpart (by simp) rfl]
      rfl
    · rfl
  · have hnone : digits.mapM Hex.digit? = none := by
      rw [← Option.not_isSome_iff_eq_none, Option.isSome_iff_exists]
      rintro ⟨ds, hds⟩
      exact h (Hex.mapM_digit?_eq_some hds).2
    rw [if_neg (fun hall => h (List.all_eq_true.mp hall)), hnone]
    rfl

/-! ## Opacity -/

/-- A color that nothing shows through is given by its three bytes. -/
theorem eq_solid_of_isSolid {c : Color} (h : c.isSolid) : c = solid c.red c.green c.blue := by
  obtain ⟨red, green, blue, alpha⟩ := c
  obtain rfl : alpha = 1 := Single.eq_one_of_beq h
  rfl

/-- **Hexadecimal notation.** It is read without cutting a character in two. What can be read are
three, four, six or eight digits, with or without one number sign before them. Neither capital
letters nor the number sign matter, and one digit for each part is as good as the same digit twice.
A color that nothing shows through is read back from its notation, and of all other colors the red,
green and blue parts are. -/
theorem hexadecimal_notation :
    (∀ t : Text, (ofHexBytes t).run = .ok (ofHex? t)) ∧
    (∀ t : Text, (ofHex? t).isSome ↔ ∃ digits : Text, (t = digits ∨ t = '#' :: digits) ∧
      digits.length ∈ [3, 4, 6, 8] ∧ ∀ d ∈ digits, Hex.IsDigit d) ∧
    (∀ t t' : Text, t.toLower = t'.toLower → ofHex? t = ofHex? t') ∧
    (∀ t : Text, t.head? ≠ some '#' → ofHex? ('#' :: t) = ofHex? t) ∧
    (∀ digits : Text, digits.length ∈ [3, 4] → (∀ d ∈ digits, Hex.IsDigit d) →
      ofHex? (digits.flatMap fun d => [d, d]) = ofHex? digits) ∧
    (∀ c : Color, c.isSolid → ofHex? c.hex = some c) ∧
    (∀ c : Color, ∃ a, ofHex? c.hexWithAlpha = some ⟨c.red, c.green, c.blue, a⟩) := by
  refine ⟨ofHexBytes_eq, fun t => ?_, fun t t' h => ?_, fun t h => ?_, fun digits hlength h => ?_,
    fun c h => ?_, fun c => ⟨_, ofHex?_hexWithAlpha c⟩⟩
  · simp only [isSome_ofHex?_iff, IsHex, Hex.isSome_digit?_iff]
  · rw [← ofHex?_toLower t, h, ofHex?_toLower]
  · rw [ofHex?, ofHex?, dropNumberSign_of_head h]
    rfl
  · exact ofHex?_doubled hlength fun d hd => (Hex.isSome_digit?_iff d).mpr (h d hd)
  · rw [ofHex?_hex, ← eq_solid_of_isSolid h]

/-- Three digits with a capital letter, spelled in other ways, and a color that is read back. -/
theorem hexadecimal_notation_sample :
    let digits : Text := ['1', 'a', 'F']
    (digits.toLower = Text.toLower ['1', 'A', 'f'] ∧ ofHex? digits = ofHex? ['1', 'A', 'f']) ∧
      (digits.head? ≠ some '#' ∧ ofHex? ('#' :: digits) = ofHex? digits) ∧
      (digits.length ∈ [3, 4] ∧ (∀ d ∈ digits, Hex.IsDigit d) ∧
        ofHex? ['1', '1', 'a', 'a', 'F', 'F'] = ofHex? digits) ∧
      ((solid 17 170 255).isSolid ∧
        ofHex? (solid 17 170 255).hex = some (solid 17 170 255)) := by
  intro digits
  obtain ⟨-, -, hcase, hsign, hdoubled, hback, -⟩ := hexadecimal_notation
  have hlower : digits.toLower = Text.toLower ['1', 'A', 'f'] := by decide
  have hhead : digits.head? ≠ some '#' := by decide
  have hlength : digits.length ∈ [3, 4] := by decide
  have hdigits : ∀ d ∈ digits, Hex.IsDigit d := by
    simp [digits, Hex.IsDigit]
  have hsolid : (solid 17 170 255).isSolid := by decide
  exact ⟨⟨hlower, hcase _ _ hlower⟩, ⟨hhead, hsign _ hhead⟩,
    ⟨hlength, hdigits, hdoubled _ hlength hdigits⟩, hsolid, hback _ hsolid⟩

end Color

end CssFragments
