import BindingLang.Expr.Basic
import Mathlib
/-!
  Numerals as numbers: what is read is never the float that is not a number.

  A float is made of its bits. These are unpacked and packed again, so that all
  patterns that are no number become one; a pattern that is a number stays one.
  The bits that a numeral is rounded to are at most those of infinity.

  What is proved:
    1. `isNaN_unpack_pack` — packing keeps a number a number.
    2. `isNaN_ofMagnitude` — bits up to those of infinity are a number's.
    3. `isNaN_of_readNumeral?` — a numeral reads as a number.
-/

namespace BindingLang

section Model

open Float.Model Float.Model.UnpackedFloat

variable {spec : Format}

/-- A pattern of bits is no number just if all bits of its exponent are set, and
some of its mantissa. -/
theorem isNaN_unpack_iff {b : BitVec spec.numBits} : (unpack spec b).isNaN = true ↔
    unpackExponent b = -1#(_) ∧ unpackMantissa b ≠ 0#(_) := by
  unfold UnpackedFloat.unpack
  simp only
  split
  · rename_i hexponent
    split
    · rename_i hmantissa
      simp [UnpackedFloat.isNaN, hmantissa]
    · rename_i hmantissa
      simp [UnpackedFloat.isNaN, hmantissa, hexponent]
  · rename_i hexponent
    split
    · split <;> simp [UnpackedFloat.isNaN, hexponent]
    · simp [UnpackedFloat.isNaN, hexponent]

theorem ofNat_ne_neg_one {width n : Nat} (h : n + 1 < 2 ^ width) :
    BitVec.ofNat width n ≠ -1#(width) := by
  intro heq
  have hnat := congrArg BitVec.toNat heq
  rw [BitVec.neg_one_eq_allOnes, BitVec.toNat_allOnes, BitVec.toNat_ofNat,
    Nat.mod_eq_of_lt (by omega)] at hnat
  omega

/-- A number is a number again when it is packed. -/
theorem isNaN_unpack_pack {u : UnpackedFloat} (h : u.isNaN = false) :
    (unpack spec (pack spec u)).isNaN = false := by
  rw [← Bool.not_eq_true, isNaN_unpack_iff]
  fun_cases UnpackedFloat.pack with
  | case1 => cases h
  | case2 s => simp [packedInfinity]
  | case3 s => simp [packedZero]
  | case4 s m e hm biased overflow => simp [packedInfinity]
  | case5 s m e hm log biased inRange normal =>
    rw [unpackExponent_packComponents]
    exact fun hset => ofNat_ne_neg_one (by omega) hset.1
  | case6 s m e hm log biased inRange subnormal =>
    rw [unpackExponent_packComponents]
    have hbits : 1 < 2 ^ spec.exponentBits := Nat.one_lt_two_pow (Nat.ne_of_gt spec.he)
    exact fun hset => ofNat_ne_neg_one hbits hset.1

end Model

namespace Binary64

open Float.Model.UnpackedFloat

/-- The bits up to those of infinity are those of numbers. -/
theorem isNaN_ofMagnitude {negative : Bool} {magnitude : Nat} (h : magnitude ≤ infinityBits) :
    (ofMagnitude negative magnitude).isNaN = false := by
  refine isNaN_unpack_pack ?_
  rw [← Bool.not_eq_true, isNaN_unpack_iff]
  rintro ⟨hexponent, hmantissa⟩
  -- With all of the exponent set there is nothing left for the mantissa.
  have he := congrArg BitVec.toNat hexponent
  refine hmantissa (BitVec.eq_of_toNat_eq ?_)
  simp only [unpackExponent, unpackMantissa, BitVec.extractLsb, BitVec.toNat_cast,
    BitVec.extractLsb'_toNat, UInt64.toNat_toBitVec, UInt64.toNat_ofNat', Nat.shiftRight_eq_div_pow,
    BitVec.neg_one_eq_allOnes, BitVec.toNat_allOnes, BitVec.toNat_zero] at he ⊢
  have hinfinity : infinityBits = 9218868437227405312 := rfl
  have hsign : signBit = 9223372036854775808 := rfl
  cases negative <;> simp at he ⊢ <;> omega

theorem isNaN_ofRatio (negative : Bool) (num den : Nat) :
    (ofRatio negative num den).isNaN = false := by
  unfold ofRatio
  split
  · exact isNaN_ofMagnitude (Nat.zero_le _)
  · exact isNaN_ofMagnitude (Nat.min_le_left _ _)

theorem isNaN_ofDecimal (negative : Bool) (significand : Nat) (exponent : Int) :
    (ofDecimal negative significand exponent).isNaN = false := by
  simp only [ofDecimal]
  split
  · exact isNaN_ofMagnitude (Nat.zero_le _)
  split
  · exact isNaN_ofMagnitude (Nat.le_refl _)
  · exact isNaN_ofRatio _ _ _

/-- A numeral is never read as what is not a number. -/
theorem isNaN_of_readNumeral? {cs : List Char} {x : Float} (h : readNumeral? cs = some x) :
    x.isNaN = false := by
  unfold readNumeral? at h
  extract_lets signed whole places at h
  split at h
  · cases h
  · obtain ⟨exponent, -, rfl⟩ := Option.map_eq_some_iff.mp h
    exact isNaN_ofDecimal _ _ _

end Binary64

namespace Literal

variable {sign text : String} {x : Float}

/-- A float that digits stand for, because 64 bits do not hold them, is a number. -/
theorem isNaN_of_ofDigits? (h : ofDigits? sign text = some (.float x)) : x.isNaN = false := by
  simp only [ofDigits?] at h
  split at h
  · cases h
  · obtain ⟨y, hread, ⟨⟩⟩ := Option.map_eq_some_iff.mp h
    exact Binary64.isNaN_of_readNumeral? hread

theorem isNaN_of_ofDecimal? (h : ofDecimal? sign text = some (.float x)) : x.isNaN = false := by
  obtain ⟨y, hread, ⟨⟩⟩ := Option.map_eq_some_iff.mp h
  exact Binary64.isNaN_of_readNumeral? hread

end Literal

end BindingLang
