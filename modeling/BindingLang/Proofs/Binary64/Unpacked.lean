import BindingLang.Proofs.Binary64.Numeral
import Mathlib
/-!
  Rounding to 53 bits, and the numbers that bits stand for.

  Floats are computed on unpacked: a sign, a mantissa and an exponent. A mantissa
  that is shifted to the right keeps two bits of what it loses, which are all that
  rounding asks for; so rounding after any number of shifts is rounding of the
  quotient. `finite?` reads the same number off the bits that unpacking does.

  What is proved:
    1. `Cut.shiftRight`, `Cut.roundedMantissa` — the bits that are kept decide the
       rounding.
    2. `roundWithAccuracy_eq` — a number of more than 53 bits is rounded to a
       normal one.
    3. `unpack_pack_finite` — packing a normal number loses nothing.
    4. `finite?_eq` — the exact value of a float is that of the unpacked one.
-/

namespace BindingLang

namespace Binary64

open Float.Model (Format totalExponent UnpackedFloat)
open Float.Model.UnpackedFloat

/-! ## Rounding a quotient -/

theorem roundHalfEven_one (n : Nat) : roundHalfEven n 1 = n := by
  simp [roundHalfEven, Nat.mod_one]

/-- Rounding does not depend on how the quotient is written. -/
theorem roundHalfEven_mul {c : Nat} (hc : 0 < c) (num den : Nat) :
    roundHalfEven (num * c) (den * c) = roundHalfEven num den := by
  unfold roundHalfEven
  have hquotient : num * c / (den * c) = num / den := Nat.mul_div_mul_right _ _ hc
  have hrest : num * c % (den * c) = num % den * c := Nat.mul_mod_mul_right _ _ _
  have htwice : 2 * (num % den * c) = 2 * (num % den) * c := by ring
  simp only [hquotient, hrest, htwice, Nat.mul_lt_mul_right hc, Nat.mul_left_inj hc.ne']

theorem roundHalfEven_bounds (num den : Nat) :
    num / den ≤ roundHalfEven num den ∧ roundHalfEven num den ≤ num / den + 1 := by
  simp only [roundHalfEven]
  split <;> omega

/-- Whether a mantissa with its two residual bits is `num / den` cut off: the first
bit tells whether at least a half is lost, and the second whether the loss is
neither nothing nor just a half. -/
structure Cut (em : ExtendedMantissa) (num den : Nat) : Prop where
  mantissa : em.mantissa = num / den
  roundBit : em.roundBit = true ↔ den ≤ 2 * (num % den)
  stickyBit : em.stickyBit = true ↔ 2 * (num % den) ≠ 0 ∧ 2 * (num % den) ≠ den

namespace Cut

theorem whole (n : Nat) : Cut (.ofMantissaAndAccuracy n .exact) n 1 := by
  refine ⟨?_, ?_, ?_⟩ <;> simp [ExtendedMantissa.ofMantissaAndAccuracy, Nat.mod_one]

/-- The bit that is shifted out becomes the first of the two. -/
theorem shiftRightOne {em : ExtendedMantissa} {num den : Nat} (h : Cut em num den)
    (hden : 0 < den) : Cut em.shiftRightOne num (den * 2) := by
  have hrest : num % (den * 2) = num % den + den * (num / den % 2) := Nat.mod_mul
  have hlt : num % den < den := Nat.mod_lt _ hden
  have hbit : num / den % 2 = 0 ∨ num / den % 2 = 1 := Nat.mod_two_eq_zero_or_one _
  refine ⟨?_, ?_, ?_⟩
  · show em.mantissa / 2 = _
    rw [h.mantissa, Nat.div_div_eq_div_mul]
  · show (em.mantissa % 2 != 0) = true ↔ _
    rw [h.mantissa, hrest, bne_iff_ne]
    obtain hbit | hbit := hbit <;> rw [hbit] <;> omega
  · show (em.roundBit || em.stickyBit) = true ↔ _
    rw [Bool.or_eq_true, h.roundBit, h.stickyBit, hrest]
    obtain hbit | hbit := hbit <;> rw [hbit] <;> omega

theorem shiftRight {em : ExtendedMantissa} {num den : Nat} (h : Cut em num den)
    (hden : 0 < den) (k : Nat) : Cut (em >>> k) num (den * 2 ^ k) := by
  induction k with
  | zero => rwa [pow_zero, mul_one]
  | succ k ih =>
    rw [pow_succ, ← mul_assoc]
    exact ih.shiftRightOne (by positivity)

/-- The two bits are all that rounding depends on. -/
theorem roundedMantissa {em : ExtendedMantissa} {num den : Nat} (h : Cut em num den) :
    em.roundedMantissa = roundHalfEven num den := by
  obtain ⟨m, r, s⟩ := em
  obtain ⟨hm, hr, hs⟩ := h
  simp only at hm hr hs
  subst hm
  unfold roundHalfEven
  cases r <;> cases s <;>
    simp only [ExtendedMantissa.roundedMantissa, ExtendedMantissa.accuracy,
      Accuracy.roundToNearestEven] <;> simp at hr hs <;> split <;> omega

end Cut

/-! ## Rounding to 53 bits -/

/-- The exponent that leaves a significand of 53 bits. -/
theorem targetExponent_eq {m : Nat} {e : Int} (h : -1074 ≤ e + (m.log2 - 52)) :
    Format.binary64.targetExponent (totalExponent m e) = e + (m.log2 - 52) := by
  have hmin : Format.binary64.minExponent = -1074 := by decide
  have hbits : Format.binary64.mantissaBits = 53 := rfl
  rw [Format.targetExponent, totalExponent, hmin, hbits]
  omega

theorem shiftToExponent_eq {m : Nat} {e t : Int} {k : Nat} (h : e + k = t) :
    shiftToExponent m e .exact t =
      (ExtendedMantissa.ofMantissaAndAccuracy m .exact >>> k, e + k) := by
  have hk : (t - e).toNat = k := by omega
  simp only [shiftToExponent, hk]

theorem shiftToTargetExponent_eq {m : Nat} {e : Int} {k : Nat} (hm : m.log2 = k + 52)
    (he : -1074 ≤ e + k) :
    shiftToTargetExponent Format.binary64 m e .exact =
      (ExtendedMantissa.ofMantissaAndAccuracy m .exact >>> k, e + k) := by
  have ht : Format.binary64.targetExponent (totalExponent m e) = e + k := by
    rw [targetExponent_eq (by omega)]
    omega
  exact shiftToExponent_eq ht.symm

/-- A significand of 53 bits needs no shift; the one just beyond, which rounding up
leads to, is shifted once and loses nothing. -/
theorem shiftToTargetExponent_carry {r : Nat} {t : Int} (hlow : 2 ^ 52 ≤ r) (hhigh : r ≤ 2 ^ 53)
    (ht : -1074 ≤ t) : ∃ m e, shiftToTargetExponent Format.binary64 r t .exact =
        (⟨m, false, false⟩, e) ∧ 2 ^ 52 ≤ m ∧ m < 2 ^ 53 ∧ t ≤ e ∧ e ≤ t + 1 ∧
      (m : ℚ) * 2 ^ e = r * 2 ^ t := by
  obtain hlt | rfl := Nat.lt_or_eq_of_le hhigh
  · have hlog : r.log2 = 0 + 52 := (Nat.log2_eq_iff (by omega)).mpr ⟨by omega, by omega⟩
    refine ⟨r, t, ?_, hlow, hlt, le_rfl, by omega, rfl⟩
    rw [shiftToTargetExponent_eq hlog (by omega), Nat.cast_zero, add_zero]
    rfl
  · have hlog : Nat.log2 (2 ^ 53) = 1 + 52 := Nat.log2_two_pow
    refine ⟨2 ^ 52, t + 1, ?_, le_rfl, by decide, by omega, le_rfl, ?_⟩
    · rw [shiftToTargetExponent_eq hlog (by omega)]
      rfl
    · rw [zpow_add_one₀ two_ne_zero]
      push_cast
      ring

/-- Without its last `k` bits a number of 53 bits and `k` more has 53. -/
theorem quotient_bounds {m k : Nat} (hm : m.log2 = k + 52) :
    2 ^ 52 ≤ m / 2 ^ k ∧ m / 2 ^ k < 2 ^ 53 := by
  have hne : m ≠ 0 := by
    rintro rfl
    simp at hm
  constructor
  · rw [Nat.le_div_iff_mul_le (by positivity), ← pow_add, add_comm, ← hm]
    exact Nat.log2_self_le hne
  · rw [Nat.div_lt_iff_lt_mul (by positivity), ← pow_add, show 53 + k = m.log2 + 1 by omega]
    exact Nat.lt_log2_self

/-- Rounding a number of 53 bits and `k` more: a normal number of the value of the
rounded quotient. -/
theorem roundWithAccuracy_eq (s : Sign) {m : Nat} {e : Int} {k : Nat} (hm : m.log2 = k + 52)
    (he : -1074 ≤ e + k) : ∃ r t, ∃ hr : 0 < r,
    roundWithAccuracy Format.binary64 s m e .exact = .finite s r t hr ∧
      2 ^ 52 ≤ r ∧ r < 2 ^ 53 ∧ e + k ≤ t ∧ t ≤ e + k + 1 ∧
      (r : ℚ) * 2 ^ t = roundHalfEven m (2 ^ k) * 2 ^ (e + k) := by
  obtain ⟨hlow, hhigh⟩ := quotient_bounds hm
  have hbounds := roundHalfEven_bounds m (2 ^ k)
  have hround : (ExtendedMantissa.ofMantissaAndAccuracy m .exact >>> k).roundedMantissa =
      roundHalfEven m (2 ^ k) := by
    have hcut := (Cut.whole m).shiftRight Nat.one_pos k
    rw [one_mul] at hcut
    exact hcut.roundedMantissa
  obtain ⟨r, t, hcarry, hrlow, hrhigh, htlow, hthigh, hvalue⟩ :=
    shiftToTargetExponent_carry (r := roundHalfEven m (2 ^ k)) (by omega) (by omega) he
  refine ⟨r, t, by omega, ?_, hrlow, hrhigh, htlow, hthigh, hvalue⟩
  simp only [roundWithAccuracy, shiftToTargetExponent_eq hm he, hround, hcarry]
  rw [dif_neg (by omega)]

/-- Packing a normal number loses nothing. -/
theorem unpack_pack_finite (s : Sign) {m : Nat} {e : Int} (hm : 0 < m) (hlow : 2 ^ 52 ≤ m)
    (hhigh : m < 2 ^ 53) (he : -1074 ≤ e) (he' : e ≤ 971) :
    unpack Format.binary64 (pack Format.binary64 (.finite s m e hm)) = .finite s m e hm := by
  have hlog : m.log2 = 52 := (Nat.log2_eq_iff (by omega)).mpr ⟨by omega, by omega⟩
  obtain ⟨b, hb⟩ : ∃ b : Nat, e = (b : Int) - 1075 := ⟨(e + 1075).toNat, by omega⟩
  have hbias : Format.binary64.exponentBias = 1023 := rfl
  have hbiased : (e + Format.binary64.exponentBias + (52 : Nat)).toNat = b := by
    rw [hbias]
    omega
  have hpack : pack Format.binary64 (.finite s m e hm) =
      packComponents Format.binary64 s (BitVec.ofNat 11 b) (BitVec.ofNat 52 m) := by
    simp only [pack, hbiased]
    rw [if_neg (by norm_num; omega), if_pos (by rw [hlog]; rfl)]
  rw [hpack]
  simp only [unpack, unpackMantissa_packComponents, unpackExponent_packComponents,
    unpackSign_packComponents, Sign.ofBitVec_toBitVec]
  have hexponent : (BitVec.ofNat 11 b).toNat = b := by
    rw [BitVec.toNat_ofNat, Nat.mod_eq_of_lt (by omega)]
  have hmantissa : (1#1 ++ BitVec.ofNat 52 m).toNat = m := by
    rw [BitVec.toNat_append, ← Nat.shiftLeft_add_eq_or_of_lt (BitVec.isLt _), BitVec.toNat_ofNat,
      BitVec.toNat_ofNat]
    norm_num
    omega
  have hset : BitVec.ofNat 11 b ≠ -1#11 := ofNat_ne_neg_one (by omega)
  have hnonzero : BitVec.ofNat 11 b ≠ 0#11 := by
    intro hzero
    rw [hzero] at hexponent
    simp at hexponent
    omega
  rw [if_neg hset, if_neg hnonzero]
  simp only [hexponent, hmantissa]
  congr 1
  rw [hbias, hb]
  push_cast
  ring

/-! ## Reading the bits -/

section Fields

variable (bits : UInt64)

theorem toNat_unpackExponent : (@unpackExponent Format.binary64 bits.toBitVec).toNat =
    bits.toNat / twoTo fractionBits % 2048 := by
  rw [unpackExponent_def, BitVec.extractLsb'_toNat, Nat.shiftRight_eq_div_pow]
  rfl

theorem toNat_unpackMantissa : (@unpackMantissa Format.binary64 bits.toBitVec).toNat =
    bits.toNat % twoTo fractionBits := by
  rw [unpackMantissa_def, BitVec.extractLsb'_toNat, Nat.shiftRight_zero]
  rfl

theorem toNat_unpackSign : (@unpackSign Format.binary64 bits.toBitVec).toNat =
    bits.toNat / signBit := by
  rw [unpackSign_def, BitVec.extractLsb'_toNat, Nat.shiftRight_eq_div_pow]
  exact Nat.mod_eq_of_lt (Nat.div_lt_of_lt_mul bits.toNat_lt)

theorem unpackSign_negative :
    (Sign.ofBitVec (@unpackSign Format.binary64 bits.toBitVec) == .negative) =
      decide (signBit ≤ bits.toNat) := by
  have hsign := toNat_unpackSign bits
  have hpos : 0 < signBit := by decide
  unfold Sign.ofBitVec
  obtain hlt | hge := Nat.lt_or_ge bits.toNat signBit
  · have hzero : @unpackSign Format.binary64 bits.toBitVec = 0#1 :=
      BitVec.eq_of_toNat_eq (hsign.trans (Nat.div_eq_of_lt hlt))
    rw [if_pos hzero, decide_eq_false (Nat.not_le.mpr hlt)]
    rfl
  · have hone : @unpackSign Format.binary64 bits.toBitVec ≠ 0#1 := by
      intro hzero
      rw [hzero] at hsign
      exact absurd hsign.symm (Nat.div_pos hge hpos).ne'
    rw [if_neg hone, decide_eq_true hge]
    rfl

end Fields

/-- The exact value of an unpacked number. -/
def ofUnpacked? : UnpackedFloat → Option Exact
  | .zero s => some ⟨s == .negative, 0, leastExponent⟩
  | .finite s m e _ => some ⟨s == .negative, m, e⟩
  | .infinity _ => none
  | .notANumber => none

/-- The exact value of a float is that of the unpacked one. -/
theorem finite?_eq (x : Float) : finite? x = ofUnpacked? x.toModel.unpack := by
  show finite? x = ofUnpacked? (UnpackedFloat.unpack Format.binary64 x.toBits.toBitVec)
  unfold finite?
  generalize x.toBits = bits
  have hexponent := toNat_unpackExponent bits
  have hmantissa := toNat_unpackMantissa bits
  have hset : @unpackExponent Format.binary64 bits.toBitVec = -1#11 ↔
      bits.toNat / twoTo fractionBits % 2048 = 2047 := by
    rw [← hexponent, ← BitVec.toNat_inj]
    rfl
  have hclear : @unpackExponent Format.binary64 bits.toBitVec = 0#11 ↔
      bits.toNat / twoTo fractionBits % 2048 = 0 := by
    rw [← hexponent, ← BitVec.toNat_inj]
    rfl
  have hbias : Format.binary64.exponentBias = 1023 := rfl
  simp only [UnpackedFloat.unpack, ← unpackSign_negative, hset, hclear, hexponent]
  split
  · split <;> rfl
  split
  · rename_i hfield
    simp only [hfield]
    split
    · rename_i hzero
      rw [hzero] at hmantissa
      rw [← hmantissa]
      rfl
    · rw [← hmantissa]
      rfl
  · rename_i hfield
    have hnormal : (1#1 ++ @unpackMantissa Format.binary64 bits.toBitVec).toNat =
        bits.toNat % twoTo fractionBits + twoTo fractionBits := by
      rw [BitVec.toNat_append, ← Nat.shiftLeft_add_eq_or_of_lt (BitVec.isLt _), hmantissa]
      exact Nat.add_comm _ _
    simp only [ofUnpacked?, hnormal, hbias, leastExponent]
    congr 2
    omega

/-- The rational number. -/
def Exact.value (x : Exact) : ℚ :=
  (if x.negative then -1 else 1) * x.significand * 2 ^ x.exponent

theorem Exact.abs_value (x : Exact) : |x.value| = x.significand * 2 ^ x.exponent := by
  have hnonneg : (0 : ℚ) ≤ x.significand * 2 ^ x.exponent := by positivity
  unfold Exact.value
  split
  · rw [mul_assoc, neg_one_mul, abs_neg, abs_of_nonneg hnonneg]
  · rw [one_mul, abs_of_nonneg hnonneg]

namespace Exact

variable {x : Exact} {k : Nat}

theorem abs_value_of_halved (h : x.exponent = -k) : |x.value| = x.significand / 2 ^ k := by
  rw [abs_value, h, zpow_neg, zpow_natCast, ← div_eq_mul_inv]

theorem abs_value_of_doubled (h : x.exponent = k) :
    |x.value| = (x.significand * 2 ^ k : Nat) := by
  rw [abs_value, h, zpow_natCast]
  push_cast
  rfl

end Exact

end Binary64

end BindingLang
