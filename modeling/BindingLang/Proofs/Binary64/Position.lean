import BindingLang.Binary64.Whole
import BindingLang.Integer
import BindingLang.Proofs.Binary64.Integer
/-!
  Positions that floats name.

  A position is the whole part of a number, kept between zero and what a machine can
  count to. It is read off the significand and the exponent, but depends on the value
  alone; so an integer that a float holds exactly names itself.

  What is proved:
    1. `Exact.wholePart_eq_floor`, `toPosition_of_finite` — the position is the whole
       part of the value, and zero for a negative one.
    2. `toPosition_ofInt` — integers up to `2^53` lose nothing on the way.
    3. `isWhole_of_value`, `nonneg_iff` — so do the other two questions that a key is
       asked depend on the value alone.
-/

namespace BindingLang

namespace Binary64

open Float.Model (UnpackedFloat)

variable {x : Float} {e : Exact}

/-! ## Whole parts -/

theorem Exact.wholePart_eq_floor (e : Exact) : e.wholePart = ⌊|e.value|⌋₊ := by
  obtain ⟨k, hk | hk⟩ := e.exponent.eq_nat_or_neg
  · have hpower : (-e.exponent).toNat = 0 := by omega
    rw [Exact.abs_value_of_doubled hk, Nat.floor_natCast, wholePart, fraction, hpower, hk,
      Int.toNat_natCast]
    exact Nat.div_one _
  · have hpower : e.exponent.toNat = 0 := by omega
    have hratio : (e.significand : ℚ) / 2 ^ k = e.significand / (2 ^ k : Nat) := by
      rw [Nat.cast_pow, Nat.cast_ofNat]
    rw [Exact.abs_value_of_halved hk, hratio, Nat.floor_div_eq_div, wholePart, fraction, hpower,
      hk, neg_neg, Int.toNat_natCast, twoTo_zero, mul_one]
    rfl

/-- A finite number names the position of its whole part, and zero below zero. -/
theorem toPosition_of_finite (h : finite? x = some e) :
    toPosition x = min greatestPosition ⌊e.value⌋₊ := by
  have habs := Exact.abs_value e
  unfold toPosition
  rw [h]
  dsimp only
  split
  · rename_i hnegative
    have hvalue : e.value = -|e.value| := by
      rw [habs, Exact.value, if_pos hnegative]
      ring
    have hle : e.value ≤ 0 := by
      rw [hvalue]
      exact neg_nonpos.mpr (abs_nonneg _)
    rw [Nat.floor_of_nonpos hle, Nat.min_zero]
  · rename_i hpositive
    have hvalue : e.value = |e.value| := by
      rw [habs, Exact.value, if_neg hpositive]
      ring
    rw [Exact.wholePart_eq_floor, ← hvalue]

/-- A finite number that is an integer names that one. -/
theorem toPosition_of_value {n : ℤ} (h : finite? x = some e) (hn : e.value = n) :
    toPosition x = min greatestPosition n.toNat := by
  rw [toPosition_of_finite h, hn, ← Int.floor_toNat, Int.floor_intCast]

/-! ## Integers -/

theorem nearestInt_nonpos {n : ℤ} (hn : n ≤ 0) : nearestInt n ≤ 0 :=
  mul_nonpos_of_nonpos_of_nonneg (Int.sign_nonpos_iff.mpr hn) (Int.natCast_nonneg _)

/-- An integer up to `2^53` names itself, and zero below zero. -/
theorem toPosition_ofInt {n : ℤ} (hlow : Integer.least ≤ n) (hhigh : n ≤ 2 ^ 53) :
    toPosition (ofInt n) = n.toNat := by
  have hleast : Integer.least = -2 ^ 63 := rfl
  have hgreatest : greatestPosition = 2 ^ 64 - 1 := rfl
  obtain ⟨e, hfinite, hvalue, -⟩ := finite?_ofInt (n := n) (by omega)
  have hnearest : (nearestInt n).toNat = n.toNat := by
    obtain hnonneg | hneg := Int.le_total 0 n
    · rw [nearestInt_eq (by omega)]
    · have := nearestInt_nonpos hneg
      omega
  rw [toPosition_of_value hfinite hvalue, hnearest]
  omega

/-! ## Keys -/

theorem isWhole_of_value {n : ℤ} (h : finite? x = some e) (hn : e.value = n) :
    isWhole x = true := by
  have habs : |e.value| = n.natAbs := by rw [hn, Nat.cast_natAbs, Int.cast_abs]
  rw [isWhole, h, Option.any_some, Exact.isWhole, beq_iff_eq, fraction]
  obtain ⟨k, hk | hk⟩ := e.exponent.eq_nat_or_neg
  · have hpower : (-e.exponent).toNat = 0 := by omega
    rw [hpower, twoTo_zero]
    exact Nat.mod_one _
  · have hpower : e.exponent.toNat = 0 := by omega
    rw [Exact.abs_value_of_halved hk, div_eq_iff (by positivity)] at habs
    have hproduct : e.significand = n.natAbs * 2 ^ k := by exact_mod_cast habs
    rw [hpower, hk, neg_neg, Int.toNat_natCast, twoTo_zero, mul_one, hproduct]
    exact Nat.mul_mod_left _ _

theorem unpack_zero : (0.0 : Float).toModel.unpack = .zero .positive := rfl

/-- A finite number is at least zero just if its value is. -/
theorem nonneg_iff (h : finite? x = some e) : x ≥ 0.0 ↔ 0 ≤ e.value := by
  have hle : x ≥ 0.0 ↔ UnpackedFloat.le (.zero .positive) x.toModel.unpack = true := by
    rw [← unpack_zero]
    show decide ((0.0 : Float).toModel.unpack.le x.toModel.unpack = true) = true ↔ _
    rw [decide_eq_true_eq]
  rw [hle]
  rw [finite?_eq] at h
  generalize x.toModel.unpack = u at h
  cases u with
  | notANumber | infinity s => cases h
  | zero s =>
    cases h
    simp [Exact.value, UnpackedFloat.le, UnpackedFloat.compare]
  | finite s m d hm =>
    cases h
    have hpos : (0 : ℚ) < m * 2 ^ d := by positivity
    cases s with
    | negative =>
      have hvalue : Exact.value ⟨true, m, d⟩ = -(m * 2 ^ d) := by
        rw [Exact.value, if_pos rfl]
        ring
      constructor
      · intro hfalse
        cases hfalse
      · intro hnonneg
        have : (0 : ℚ) ≤ -(m * 2 ^ d) := hvalue ▸ hnonneg
        linarith
    | positive =>
      have hvalue : Exact.value ⟨false, m, d⟩ = m * 2 ^ d := by
        rw [Exact.value, if_neg Bool.false_ne_true]
        ring
      constructor
      · intro _
        show 0 ≤ Exact.value ⟨false, m, d⟩
        rw [hvalue]
        exact hpos.le
      · intro _
        rfl

end Binary64

end BindingLang
