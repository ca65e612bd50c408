import CssFragments.Number.Single

/-! # Full opacity

Nothing shows through a color if its opacity is compared equal to one. Numbers that are not the same
can be compared equal, as the two zeros are, and numbers that are the same can be unequal. But the
only number that is equal to one is one itself: a number is compared by its sign, exponent and
digits, and these make up all of its bits.

* `Single.eq_of_compare_eq`: what is compared equal to a positive number has its parts.
* `Single.eq_of_unpack_eq`: the bits of a number with the parts of one.
* `Single.eq_one_of_beq`: the only number that is equal to one. -/

namespace CssFragments

namespace Single

open Float.Model Float.Model.UnpackedFloat

/-! ## The parts of a number -/

variable {b : BitVec Format.binary32.numBits}

theorem toNat_unpackMantissa (b : BitVec Format.binary32.numBits) :
    (unpackMantissa b).toNat = b.toNat % 8388608 := by
  show (b.toNat >>> 0) % 2 ^ (22 - 0 + 1) = _
  rfl

theorem toNat_unpackExponent (b : BitVec Format.binary32.numBits) :
    (unpackExponent b).toNat = b.toNat / 8388608 % 256 := by
  show (b.toNat >>> 23) % 2 ^ (30 - 23 + 1) = _
  rw [Nat.shiftRight_eq_div_pow]

theorem toNat_unpackSign (b : BitVec Format.binary32.numBits) :
    (unpackSign b).toNat = b.toNat / 2147483648 := by
  show (b.toNat >>> 31) % 2 ^ (31 - 31 + 1) = _
  have hb : b.toNat < 2 ^ 32 := b.isLt
  rw [Nat.shiftRight_eq_div_pow]
  omega

theorem toNat_of_positive {s : BitVec 1} (h : Sign.ofBitVec s = .positive) : s.toNat = 0 := by
  rcases BitVec.eq_zero_or_eq_one s with rfl | rfl
  · rfl
  · cases h

/-! ## Comparisons with one -/

/-- What is compared equal to a positive number has the same parts. -/
theorem eq_of_compare_eq {u : UnpackedFloat} {m : Nat} {e : Int} {hm : 0 < m}
    (h : u.compare (.finite .positive m e hm) = some .eq) : u = .finite .positive m e hm := by
  cases u with
  | infinity s => cases s <;> cases h
  | notANumber => cases h
  | zero s => cases h
  | finite s m' e' hm' =>
    cases s with
    | negative => cases h
    | positive =>
      obtain ⟨hexponent, hmantissa⟩ := Ordering.then_eq_eq.mp (Option.some.inj h)
      obtain rfl : e' = e := Std.LawfulEqCmp.eq_of_compare hexponent
      obtain rfl : m' = m := Std.LawfulEqCmp.eq_of_compare hmantissa
      rfl

/-- **The bits of one**: its digits stand for `2 ^ 23`, and its exponent is `-23`. -/
theorem eq_of_unpack_eq
    (h : UnpackedFloat.unpack .binary32 b = .finite .positive 8388608 (-23) (by decide)) :
    b = 0x3F800000#32 := by
  have hmantissa := toNat_unpackMantissa b
  have hexponent := toNat_unpackExponent b
  have hsign := toNat_unpackSign b
  have hlt : (unpackMantissa b).toNat < 2 ^ 23 :=
    (unpackMantissa b).isLt
  -- the cases are those of the exponent: the largest one, zero, and all others
  by_cases hlargest : unpackExponent b = -1#8
  · have h := (if_pos hlargest).symm.trans h
    by_cases hnone : unpackMantissa b = 0#23
    · cases (if_pos hnone).symm.trans h
    · cases (if_neg hnone).symm.trans h
  have h := (if_neg hlargest).symm.trans h
  by_cases hsmall : unpackExponent b = 0#8
  · have h := (if_pos hsmall).symm.trans h
    by_cases hnone : unpackMantissa b = 0#23
    · cases (dif_pos hnone).symm.trans h
    · -- small numbers have fewer digits
      injection (dif_neg hnone).symm.trans h with _ hm
      omega
  · injection (if_neg hsmall).symm.trans h with hs hm he
    have hzero := toNat_of_positive hs
    have hdigits : 1 <<< 23 + (unpackMantissa b).toNat = 8388608 := by
      rw [Nat.shiftLeft_add_eq_or_of_lt hlt]
      rwa [BitVec.toNat_append] at hm
    have he : ((unpackExponent b).toNat : Int) - (127 + 23) = -23 := he
    have hb : b.toNat < 2 ^ 32 := b.isLt
    refine BitVec.eq_of_toNat_eq ?_
    show b.toNat = 1065353216
    omega

/-- **The only number that is equal to one.** -/
theorem eq_one_of_beq {x : Float32} (h : x == 1) : x = 1 := by
  obtain ⟨⟨⟨b⟩, hvalid⟩⟩ := x
  have hone : UnpackedFloat.unpack .binary32 b = .finite .positive 8388608 (-23) (by decide) :=
    eq_of_compare_eq (eq_of_beq h)
  obtain rfl := eq_of_unpack_eq hone
  rfl

end Single

end CssFragments
