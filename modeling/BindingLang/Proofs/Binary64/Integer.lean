import BindingLang.Proofs.Binary64.Unpacked
import Mathlib
/-!
  Integers as floats.

  A natural number is made a float by one of two ways: below `2^53` it is exact, and
  is multiplied by one; from there on it is rounded to 53 bits, a half going to the
  even significand. A negative integer is the float of its magnitude with the sign
  changed.

  What is proved:
    1. `normal_ofNat` — a natural number of 64 bits as a float is the nearest number
       of 53 bits.
    2. `finite?_ofInt` — so is an integer of 64 bits, with its sign.
    3. `nearestInt_eq` — up to `2^53` nothing is lost.
    4. `natAbs_of_nearestInt_eq` — different integers that become the same float are
       both beyond.
    5. `value_eq_of_beq` — equal floats have the same value.
-/

namespace BindingLang

namespace Binary64

open Float.Model (Format totalExponent UnpackedFloat)
open Float.Model.UnpackedFloat

/-! ## Normal numbers -/

/-- The nearest whole number with a significand of 53 bits, a half going to the even
one. -/
def nearestWhole (n : Nat) : Nat := roundHalfEven n (2 ^ (n.log2 - 52)) * 2 ^ (n.log2 - 52)

/-- Whether `x` has this sign, a significand `m` of 53 bits, and this exponent. -/
structure Normal (x : Float) (s : Sign) (m : Nat) (e : Int) : Prop where
  pos : 0 < m
  unpack_eq : x.toModel.unpack = .finite s m e pos
  low : 2 ^ 52 ≤ m
  high : m < 2 ^ 53

theorem Normal.finite?_eq {x : Float} {s : Sign} {m : Nat} {e : Int} (h : Normal x s m e) :
    finite? x = some ⟨s == .negative, m, e⟩ := by
  rw [Binary64.finite?_eq, h.unpack_eq]
  rfl

/-- A number of 53 bits and `k` more is rounded to a normal one. -/
theorem normal_pack (s : Sign) {m : Nat} {e : Int} {k : Nat} (hm : m.log2 = k + 52)
    (he : -1074 ≤ e + k) (he' : e + k ≤ 970) : ∃ r t,
    Normal (.ofModel (.pack (roundWithAccuracy Format.binary64 s m e .exact))) s r t ∧
      e + k ≤ t ∧ t ≤ e + k + 1 ∧
      (r : ℚ) * 2 ^ t = roundHalfEven m (2 ^ k) * 2 ^ (e + k) := by
  obtain ⟨r, t, hr, hround, hlow, hhigh, htlow, hthigh, hvalue⟩ := roundWithAccuracy_eq s hm he
  refine ⟨r, t, ⟨hr, ?_, hlow, hhigh⟩, htlow, hthigh, hvalue⟩
  rw [hround]
  exact unpack_pack_finite s hr hlow hhigh (by omega) (by omega)

theorem log2_mul_two_pow {n : Nat} (hn : 0 < n) (k : Nat) : (n * 2 ^ k).log2 = n.log2 + k := by
  have hpos : 0 < 2 ^ k := by positivity
  have hlow : 2 ^ n.log2 ≤ n := Nat.log2_self_le hn.ne'
  have hhigh : n < 2 ^ (n.log2 + 1) := Nat.lt_log2_self
  rw [Nat.log2_eq_iff (by positivity), pow_add, add_right_comm, pow_add]
  exact ⟨Nat.mul_le_mul_right _ hlow, Nat.mul_lt_mul_of_pos_right hhigh hpos⟩

/-- A significand that stands shifted to the left is rounded to itself. -/
theorem normal_pack_exact (s : Sign) {r : Nat} {e : Int} (k : Nat) (hlow : 2 ^ 52 ≤ r)
    (hhigh : r < 2 ^ 53) (he : -1074 ≤ e + k) (he' : e + k ≤ 970) :
    Normal (.ofModel (.pack (roundWithAccuracy Format.binary64 s (r * 2 ^ k) e .exact))) s r
      (e + k) := by
  have hlog : r.log2 = 52 := (Nat.log2_eq_iff (by omega)).mpr ⟨hlow, hhigh⟩
  have hround : roundHalfEven (r * 2 ^ k) (2 ^ k) = r := by
    have hscaled := roundHalfEven_mul (c := 2 ^ k) (by positivity) r 1
    rwa [one_mul, roundHalfEven_one] at hscaled
  obtain ⟨m, t, hnormal, htlow, hthigh, hvalue⟩ :=
    normal_pack s (m := r * 2 ^ k) (by rw [log2_mul_two_pow (by omega), hlog, add_comm]) he he'
  rw [hround] at hvalue
  obtain rfl | rfl : t = e + k ∨ t = e + k + 1 := by omega
  · have hm : (m : ℚ) = r := mul_right_cancel₀ (zpow_ne_zero _ two_ne_zero) hvalue
    rwa [Nat.cast_injective hm] at hnormal
  · have hm : (m : ℚ) * 2 = r := by
      rw [zpow_add_one₀ two_ne_zero] at hvalue
      refine mul_right_cancel₀ (zpow_ne_zero (e + k) two_ne_zero) (Eq.trans ?_ hvalue)
      ring
    have hlow' := hnormal.low
    have : m * 2 = r := by exact_mod_cast hm
    omega

/-- Below `2^53` a whole number is exact. -/
theorem normal_toFloat {n : Nat} (hn : 0 < n) (hn' : n < 2 ^ 53) :
    Normal n.toUInt64.toFloat .positive (n * 2 ^ (52 - n.log2)) (n.log2 - 52) := by
  have hlog : n.log2 ≤ 52 := by
    have := (Nat.log2_lt hn.ne').mpr hn'
    omega
  have hwhole : (n.toUInt64.toNat : Int) = n := by
    rw [Nat.toUInt64, UInt64.toNat_ofNat', Nat.mod_eq_of_lt (by omega)]
  have htarget : Format.binary64.targetExponent (totalExponent n 0) = n.log2 - 52 := by
    rw [targetExponent_eq (by omega), zero_add]
  have hround : UnpackedFloat.ofUInt64 Format.binary64 n.toUInt64 =
      roundWithAccuracy Format.binary64 .positive (n * 2 ^ (52 - n.log2)) (n.log2 - 52)
        .exact := by
    have hshift : (0 - ((n.log2 : Int) - 52)).toNat = 52 - n.log2 := by omega
    have hexponent : (0 : Int) - (52 - n.log2 : Nat) = n.log2 - 52 := by omega
    rw [ofUInt64, UnpackedFloat.ofNat, UnpackedFloat.ofInt, hwhole, UnpackedFloat.normalize,
      Int.compare_eq_gt.mpr (by omega)]
    dsimp only
    rw [Int.toNat_natCast, UnpackedFloat.round, htarget, decreaseExponent, hshift]
    dsimp only
    rw [Nat.shiftLeft_eq, hexponent]
  have hbits : (n * 2 ^ (52 - n.log2)).log2 = 52 := by
    rw [log2_mul_two_pow hn]
    omega
  obtain ⟨hlow, hhigh⟩ := (Nat.log2_eq_iff (by positivity)).mp hbits
  have hnormal := normal_pack_exact .positive (e := n.log2 - 52) 0 hlow hhigh (by omega) (by omega)
  rw [pow_zero, mul_one, Nat.cast_zero, add_zero, ← hround] at hnormal
  exact hnormal

/-- The number one. -/
def one : Float := Float.ofBits 0x3FF0000000000000

theorem unpack_one : one.toModel.unpack = .finite .positive (2 ^ 52) (-52) (by decide) := rfl

theorem normal_mul_one {x : Float} {m : Nat} {e : Int} (h : Normal x .positive m e)
    (he : -1074 ≤ e) (he' : e ≤ 970) : Normal (x * one) .positive m e := by
  have hround : x * one = .ofModel (.pack
      (roundWithAccuracy Format.binary64 .positive (m * 2 ^ 52) (e + -52) .exact)) := by
    show Float.ofModel (.pack (UnpackedFloat.mul _ x.toModel.unpack one.toModel.unpack)) = _
    rw [h.unpack_eq, unpack_one]
    rfl
  have hnormal := normal_pack_exact .positive (e := e + -52) 52 h.low h.high (by omega) (by omega)
  rwa [← hround, Nat.cast_ofNat, neg_add_cancel_right] at hnormal

/-- A natural number of 64 bits as a float: the nearest number of 53 bits. -/
theorem normal_ofNat {n : Nat} (hn : 0 < n) (hn' : n < 2 ^ 64) : ∃ m e,
    Normal (Float.ofNat n) .positive m e ∧ -52 ≤ e ∧ e ≤ 12 ∧
      (m : ℚ) * 2 ^ e = nearestWhole n := by
  obtain hsmall | hlarge := Nat.lt_or_ge n (2 ^ 53)
  · have hlog : n.log2 ≤ 52 := by
      have := (Nat.log2_lt hn.ne').mpr hsmall
      omega
    have hproduct : Float.ofNat n = n.toUInt64.toFloat * one := by
      show Float.ofScientific n false 0 = _
      rw [Float.ofScientific, dif_pos ⟨hsmall, by decide⟩]
      rfl
    have hnormal := normal_mul_one (normal_toFloat hn hsmall) (by omega) (by omega)
    refine ⟨_, _, hproduct ▸ hnormal, by omega, by omega, ?_⟩
    have hexponent : (2 : ℚ) ^ ((n.log2 : Int) - 52) = (2 ^ (52 - n.log2))⁻¹ := by
      rw [← zpow_natCast, ← zpow_neg]
      congr 1
      omega
    rw [nearestWhole, show n.log2 - 52 = 0 by omega, pow_zero, roundHalfEven_one, mul_one,
      hexponent]
    push_cast
    field_simp
  · have hlog : 53 ≤ n.log2 := (Nat.le_log2 hn.ne').mpr hlarge
    have hlog' : n.log2 < 64 := (Nat.log2_lt hn.ne').mpr hn'
    have hround : Float.ofNat n = .ofModel (.pack (roundWithAccuracy Format.binary64 .positive
        (n * 2 ^ 53) (-53) .exact)) := by
      show Float.ofScientific n false 0 = _
      rw [Float.ofScientific, dif_neg (fun h => absurd h.1 (Nat.not_lt.mpr hlarge))]
      show Float.ofModel (.pack (UnpackedFloat.ofScientific Format.binary64 n 0)) = _
      have hpower : (0 : Int) ≤ 2 ^ Format.binary64.exponentBits := by positivity
      rw [UnpackedFloat.ofScientific, dif_neg hn.ne', if_neg (by decide), if_neg (by omega),
        if_pos le_rfl, UnpackedFloat.mul, Nat.shiftLeft_eq, Int.toNat_zero, pow_zero, mul_one]
      rfl
    have hbits : (n * 2 ^ 53).log2 = n.log2 + 1 + 52 := by rw [log2_mul_two_pow hn]
    obtain ⟨m, e, hnormal, hlow, hhigh, hvalue⟩ :=
      normal_pack .positive (e := -53) hbits (by omega) (by omega)
    refine ⟨m, e, hround ▸ hnormal, by omega, by omega, hvalue.trans ?_⟩
    have hpower : 2 ^ (n.log2 + 1) = 2 ^ (n.log2 - 52) * 2 ^ 53 := by
      rw [← pow_add]
      congr 1
      omega
    have hexponent : (-53 + ((n.log2 + 1 : Nat) : Int)) = (n.log2 - 52 : Nat) := by omega
    rw [hpower, roundHalfEven_mul (by decide), hexponent, zpow_natCast, nearestWhole]
    push_cast
    rfl

theorem normal_neg {x : Float} {s : Sign} {m : Nat} {e : Int} (h : Normal x s m e)
    (he : -1074 ≤ e) (he' : e ≤ 971) : Normal (Float.neg x) (-s) m e := by
  refine ⟨h.pos, ?_, h.low, h.high⟩
  show (Float.Model.pack x.toModel.unpack.neg).unpack = _
  rw [h.unpack_eq]
  exact unpack_pack_finite (-s) h.pos h.low h.high he he'

/-! ## Integers -/

/-- The nearest integer with a significand of 53 bits, a half going to the even one. -/
def nearestInt (n : Int) : Int := n.sign * nearestWhole n.natAbs

theorem Normal.abs_value_lt {x : Float} {s : Sign} {m : Nat} {e : Int} (h : Normal x s m e)
    (he : e ≤ 12) : |Exact.value ⟨s == .negative, m, e⟩| < 2 ^ 65 := by
  have hm : (m : ℚ) < 2 ^ 53 := by exact_mod_cast h.high
  calc |Exact.value ⟨s == .negative, m, e⟩| = m * 2 ^ e := Exact.abs_value _
    _ ≤ m * 2 ^ (12 : ℤ) :=
      mul_le_mul_of_nonneg_left (zpow_le_zpow_right₀ one_le_two he) (Nat.cast_nonneg _)
    _ < 2 ^ 53 * 2 ^ (12 : ℤ) := mul_lt_mul_of_pos_right hm (by positivity)
    _ = 2 ^ 65 := by norm_num

/-- The float of an integer of 64 bits has the value of the nearest one of 53 bits. -/
theorem finite?_ofInt {n : Int} (hn : n.natAbs < 2 ^ 64) : ∃ e, finite? (ofInt n) = some e ∧
    e.value = nearestInt n ∧ |e.value| < 2 ^ 65 := by
  cases n with
  | ofNat n =>
    have hfloat : ofInt (.ofNat n) = Float.ofNat n := rfl
    rw [hfloat]
    obtain rfl | hpos := Nat.eq_zero_or_pos n
    · refine ⟨⟨false, 0, leastExponent⟩, finite?_eq _, ?_, ?_⟩ <;>
        simp [Exact.value, nearestInt]
    · obtain ⟨m, e, hnormal, -, hhigh, hvalue⟩ := normal_ofNat hpos hn
      refine ⟨_, hnormal.finite?_eq, ?_, hnormal.abs_value_lt hhigh⟩
      have hsign : (Int.ofNat n).sign = 1 := Int.sign_eq_one_of_pos (Int.natCast_pos.mpr hpos)
      calc Exact.value ⟨false, m, e⟩ = m * 2 ^ e := by simp [Exact.value]
        _ = (1 * nearestWhole n : ℤ) := by rw [hvalue, one_mul, Int.cast_natCast]
        _ = nearestInt (.ofNat n) := by rw [nearestInt, hsign]; rfl
  | negSucc n =>
    have hfloat : ofInt (.negSucc n) = Float.neg (Float.ofNat n.succ) := rfl
    rw [hfloat]
    obtain ⟨m, e, hnormal, hlow, hhigh, hvalue⟩ := normal_ofNat n.succ_pos hn
    have hnegative := normal_neg hnormal (by omega) (by omega)
    refine ⟨_, hnegative.finite?_eq, ?_, hnegative.abs_value_lt hhigh⟩
    calc Exact.value ⟨true, m, e⟩ = -(m * 2 ^ e) := by simp [Exact.value]
      _ = (-1 * nearestWhole n.succ : ℤ) := by rw [hvalue, neg_one_mul]; push_cast; rfl
      _ = nearestInt (.negSucc n) := rfl

theorem nearestWhole_eq {n : Nat} (hn : n ≤ 2 ^ 53) : nearestWhole n = n := by
  obtain hlt | rfl := Nat.lt_or_eq_of_le hn
  · obtain rfl | hpos := Nat.eq_zero_or_pos n
    · rfl
    have hlog := (Nat.log2_lt hpos.ne').mpr hlt
    rw [nearestWhole, show n.log2 - 52 = 0 by omega, pow_zero, roundHalfEven_one, mul_one]
  · rw [nearestWhole, Nat.log2_two_pow]
    rfl

theorem le_nearestWhole {n : Nat} (hn : 2 ^ 53 ≤ n) : 2 ^ 53 ≤ nearestWhole n := by
  have hlog : 53 ≤ n.log2 := (Nat.le_log2 (by omega)).mpr hn
  obtain ⟨k, hk⟩ := Nat.exists_eq_add_of_le hlog
  have hlow := (quotient_bounds (k := k + 1) (by omega : n.log2 = k + 1 + 52)).1
  have hround := (roundHalfEven_bounds n (2 ^ (k + 1))).1
  rw [nearestWhole, show n.log2 - 52 = k + 1 by omega]
  calc 2 ^ 53 = 2 ^ 52 * 2 ^ 1 := rfl
    _ ≤ roundHalfEven n (2 ^ (k + 1)) * 2 ^ (k + 1) :=
      Nat.mul_le_mul (hlow.trans hround) (Nat.pow_le_pow_right two_pos (by omega))

/-- Up to `2^53` nothing is lost. -/
theorem nearestInt_eq {n : Int} (hn : n.natAbs ≤ 2 ^ 53) : nearestInt n = n := by
  rw [nearestInt, nearestWhole_eq hn]
  exact Int.sign_mul_natAbs n

/-- An integer below `2^53` shares its float with no other. -/
theorem natAbs_of_nearestInt_eq {m n : Int} (h : nearestInt m = nearestInt n) (hne : m ≠ n) :
    2 ^ 53 ≤ m.natAbs := by
  by_contra hsmall
  rw [not_le] at hsmall
  rw [nearestInt_eq hsmall.le] at h
  obtain hle | hlarge := le_total n.natAbs (2 ^ 53)
  · exact hne (h.trans (nearestInt_eq hle))
  · have hsign : n.sign.natAbs = 1 := by
      rw [Int.natAbs_sign, if_neg]
      rintro rfl
      simp at hlarge
    have habs : m.natAbs = nearestWhole n.natAbs := by
      rw [h, nearestInt, Int.natAbs_mul, hsign, one_mul, Int.natAbs_natCast]
    exact absurd hsmall (Nat.not_lt.mpr (habs ▸ le_nearestWhole hlarge))

/-- Floats that are equal have the same value: the same bits, or both are zero. -/
theorem value_eq_of_beq {x y : Float} {a b : Exact} (h : (x == y) = true)
    (hx : finite? x = some a) (hy : finite? y = some b) : a.value = b.value := by
  have hzero : finite? (0 : Float) = some ⟨false, 0, leastExponent⟩ := by decide
  have hzero' : finite? (-0 : Float) = some ⟨true, 0, leastExponent⟩ := by decide
  obtain ⟨-, -, rfl | ⟨rfl, rfl⟩ | ⟨rfl, rfl⟩⟩ := Float.beq_iff_ne_nan_and_eq.mp h
  · rw [hx] at hy
    rw [Option.some.inj hy]
  · rw [hzero] at hx
    rw [hzero'] at hy
    cases hx
    cases hy
    simp [Exact.value]
  · rw [hzero'] at hx
    rw [hzero] at hy
    cases hx
    cases hy
    simp [Exact.value]

end Binary64

end BindingLang
