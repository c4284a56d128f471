import BindingLang.Command.Basic
import BindingLang.Proofs.Expr.Numeral
/-!
  Arithmetic on integers is exact or leaves the integers.

  Booleans and null are integers in arithmetic. Each operation has an exact result
  on all integers, except a division that leaves a rest. Where 64 bits hold it, it is
  the result, and otherwise the result is a float. The least integer by minus one has
  an exact quotient that 64 bits do not hold; a remainder is always one that they do.

  What is proved:
    1. `Integer.ofInt?_eq_some_iff` — an integer in 64 bits is that integer.
    2. `Arithmetic.integers_spec` — the result is the exact one where it can be.
    3. `Arithmetic.integers_remainder` — a remainder is always an integer.
    4. `integer_arithmetic` — so it is for every operator on all that are integers in
       arithmetic, and for the sign.
-/

namespace BindingLang

theorem Integer.ofInt?_eq_some_iff {n : Int} {m : Int64} :
    Integer.ofInt? n = some m ↔ m.toInt = n := by
  unfold Integer.ofInt?
  constructor
  · intro h
    split at h
    · rename_i hfits
      cases h
      rw [fits, Bool.and_eq_true, decide_eq_true_eq, decide_eq_true_eq] at hfits
      unfold least greatest at hfits
      exact Int64.toInt_ofInt_of_le (by omega) (by omega)
    · cases h
  · rintro rfl
    rw [if_pos (fits_toInt m), Int64.ofInt_toInt]

namespace Value

/-- The integer that a value is in arithmetic. -/
def integer? : Value → Option Int
  | .integer n => some n.toInt
  | .boolean b => some (if b then 1 else 0)
  | .null => some 0
  | .undefined => none
  | .float _ => none
  | .string _ => none
  | .array _ => none
  | .object _ => none
  | .function _ => none
  | .scope _ => none

theorem number?_of_integer? {v : Value} {a : Int} (h : v.integer? = some a) :
    ∃ n : Int64, n.toInt = a ∧ v.number? = some (.integer n) := by
  cases v with
  | null => cases h; exact ⟨0, rfl, rfl⟩
  | boolean b => cases h; exact ⟨if b then 1 else 0, by cases b <;> rfl, rfl⟩
  | integer n => cases h; exact ⟨n, rfl, rfl⟩
  | _ => cases h

theorem isText_of_number? {v : Value} {x : Number} (h : v.number? = some x) :
    v.isText = false := by
  cases v with
  | string s => cases h
  | _ => rfl

/-- Whether a result is a number, and just those integers of 64 bits that `P` holds of:
the integer if there is one, and else a float. -/
def IntegerJustIf (v : Value) (P : Int → Prop) : Prop :=
  v.isNumber = true ∧ ∀ r : Int64, v = .integer r ↔ P r.toInt

variable {P : Int → Prop}

theorem integerJustIf_float {x : Float} (h : ∀ r : Int64, ¬ P r.toInt) :
    (Value.float x).IntegerJustIf P :=
  ⟨rfl, fun r => ⟨nofun, fun hr => absurd hr (h r)⟩⟩

section Found

variable {found : Option Int64} (h : ∀ r : Int64, found = some r ↔ P r.toInt)

include h

/-- Where the integer that `P` holds of is looked for, it is the result if it is found. -/
theorem integerJustIf_of_some {n : Int64} (hn : found = some n) :
    (Value.integer n).IntegerJustIf P := by
  refine ⟨rfl, fun r => ?_⟩
  rw [Value.integer.injEq, ← h r, hn, Option.some.injEq]

/-- And if it is not found, a float is. -/
theorem integerJustIf_of_none {x : Float} (hn : found = none) :
    (Value.float x).IntegerJustIf P := by
  refine integerJustIf_float fun r hr => ?_
  rw [← h r, hn] at hr
  cases hr

end Found

theorem IntegerJustIf.congr {v : Value} {Q : Int → Prop} (h : v.IntegerJustIf P)
    (hiff : ∀ r : Int64, P r.toInt ↔ Q r.toInt) : v.IntegerJustIf Q :=
  ⟨h.1, fun r => (h.2 r).trans (hiff r)⟩

end Value

namespace Arithmetic

variable {operation : Arithmetic} {a b : Int64}

/-- The result on two integers is the exact one where 64 bits hold it. -/
theorem integers_spec (h : operation.divides = true → b.toInt ≠ 0) :
    ∃ v, operation.integers a b = .ok v ∧
      v.IntegerJustIf fun r => operation.ofIntegers? a.toInt b.toInt = some r := by
  have hdivisor : (operation.divides && b == 0) = false := by
    rw [Bool.and_eq_false_iff, beq_eq_false_iff_ne]
    cases hdivides : operation.divides with
    | false => exact .inl rfl
    | true => exact .inr fun hzero => h hdivides (hzero ▸ rfl)
  have hexact : ∀ r : Int64, (operation.ofIntegers? a.toInt b.toInt).bind Integer.ofInt? = some r ↔
      operation.ofIntegers? a.toInt b.toInt = some r.toInt := by
    intro r
    simp only [Option.bind_eq_some_iff, Integer.ofInt?_eq_some_iff]
    constructor
    · rintro ⟨_, hresult, rfl⟩
      exact hresult
    · exact fun hresult => ⟨_, hresult, rfl⟩
  rw [integers, hdivisor, if_neg Bool.false_ne_true]
  cases hn : (operation.ofIntegers? a.toInt b.toInt).bind Integer.ofInt? with
  | some n => exact ⟨_, rfl, Value.integerJustIf_of_some hexact hn⟩
  | none => exact ⟨_, rfl, Value.integerJustIf_of_none hexact hn⟩

theorem integers_zero (h : operation.divides = true) (hb : b.toInt = 0) :
    operation.integers a b = .error .divisionByZero := by
  have hzero : b = 0 := Int64.toInt_inj.mp hb
  rw [integers, h, hzero]
  rfl

theorem ofIntegers?_divide {a b q : Int} (hb : b ≠ 0) :
    divide.ofIntegers? a b = some q ↔ q * b = a := by
  simp only [ofIntegers?]
  split
  · rename_i hrest
    have hexact : a.tdiv b * b = a := Int.tdiv_mul_cancel (Int.dvd_of_tmod_eq_zero hrest)
    rw [Option.some.injEq]
    constructor
    · rintro rfl
      exact hexact
    · exact fun h => Int.eq_of_mul_eq_mul_right hb (hexact.trans h.symm)
  · rename_i hrest
    refine ⟨nofun, fun h => absurd (Int.tmod_eq_zero_of_dvd ⟨q, ?_⟩) hrest⟩
    rw [← h, Int.mul_comm]

theorem natAbs_tmod_lt {a b : Int} (hb : b ≠ 0) : (a.tmod b).natAbs < b.natAbs := by
  rw [Int.natAbs_tmod]
  exact Nat.mod_lt _ (Int.natAbs_pos.mpr hb)

/-- A rest has the sign of what is divided. -/
theorem sign_tmod_of_rest {a b : Int} : a.tmod b = 0 ∨ (a.tmod b).sign = a.sign := by
  by_cases hdvd : b ∣ a
  · exact .inl (Int.tmod_eq_zero_of_dvd hdvd)
  · exact .inr ((Int.sign_tmod a b).trans (if_neg hdvd))

/-- A remainder is always an integer, also that of the least one by minus one. -/
theorem integers_remainder (hb : b.toInt ≠ 0) :
    ∃ r : Int64, remainder.integers a b = .ok (.integer r) ∧ r.toInt = a.toInt.tmod b.toInt := by
  obtain ⟨v, hv, -, hexact⟩ := @integers_spec remainder a b fun _ => hb
  -- It is no further from zero than the divisor, so 64 bits hold it.
  have hlt := natAbs_tmod_lt (a := a.toInt) hb
  have hlow := b.le_toInt
  have hhigh := b.toInt_lt
  have hr : (Int64.ofInt (a.toInt.tmod b.toInt)).toInt = a.toInt.tmod b.toInt :=
    Int64.toInt_ofInt_of_le (by omega) (by omega)
  refine ⟨_, ?_, hr⟩
  rw [hv, (hexact _).mpr (congrArg some hr.symm)]

end Arithmetic

section Operators

variable {σ : Type} (host : Host σ) {left right : Value} {a b : Int}

/-- An operator between two numbers computes with them. -/
theorem applyBinary_numbers (symbol : String) {operation : Arithmetic} {x y : Number}
    (hsymbol : BinaryOperator.ofSymbol? symbol = some (.arithmetic operation))
    (hleft : left.number? = some x) (hright : right.number? = some y) :
    host.applyBinary symbol left right = EvalM.ofExcept (operation.numbers x y) := by
  have hcombine : left.combine operation right = operation.numbers x y := by
    rw [Value.combine, hleft, hright]
  rw [Host.applyBinary, hsymbol, ← hcombine]
  cases operation with
  | add =>
    show EvalM.ofExcept (left.add right) = _
    rw [Value.add, Value.isText_of_number? hleft, Value.isText_of_number? hright, Bool.or_self,
      if_neg Bool.false_ne_true]
  | _ => rfl

/-- The result of an operator on all that are integers in arithmetic, unless zero
divides. -/
theorem applyBinary_integers (symbol : String) {operation : Arithmetic}
    (hsymbol : BinaryOperator.ofSymbol? symbol = some (.arithmetic operation))
    (hleft : left.integer? = some a) (hright : right.integer? = some b)
    (hb : operation.divides = true → b ≠ 0) :
    ∃ v, host.applyBinary symbol left right = EvalM.ofExcept (.ok v) ∧
      v.IntegerJustIf fun r => operation.ofIntegers? a b = some r := by
  obtain ⟨m, rfl, hm⟩ := Value.number?_of_integer? hleft
  obtain ⟨n, rfl, hn⟩ := Value.number?_of_integer? hright
  obtain ⟨v, hv, hexact⟩ := Arithmetic.integers_spec hb
  exact ⟨v, hv ▸ applyBinary_numbers host symbol hsymbol hm hn, hexact⟩

/-- The sign of an integer is changed exactly, or the result is a float. -/
theorem negate_integer (n : Int64) : ∃ v, Value.applyUnary "-" (.integer n) = .ok v ∧
    v.IntegerJustIf fun r => r = -n.toInt := by
  have hminus : Value.applyUnary "-" (.integer n) = (Value.integer n).negate := rfl
  have hexact : ∀ r : Int64, Integer.ofInt? (-n.toInt) = some r ↔ r.toInt = -n.toInt :=
    fun r => Integer.ofInt?_eq_some_iff
  rw [hminus, Value.negate]
  cases hn : Integer.ofInt? (-n.toInt) with
  | some m => exact ⟨_, rfl, Value.integerJustIf_of_some hexact hn⟩
  | none => exact ⟨_, rfl, Value.integerJustIf_of_none hexact hn⟩

/-- On all that are integers in arithmetic, sums, differences and products are exact or
floats; so are quotients, and a quotient that is not whole is a float; a remainder is
that of the quotient without its fraction; and zero divides nothing. -/
theorem integer_arithmetic (hleft : left.integer? = some a) (hright : right.integer? = some b) :
    (∃ v, host.applyBinary "+" left right = EvalM.ofExcept (.ok v) ∧
        v.IntegerJustIf fun r => r = a + b) ∧
      (∃ v, host.applyBinary "-" left right = EvalM.ofExcept (.ok v) ∧
        v.IntegerJustIf fun r => r = a - b) ∧
      (∃ v, host.applyBinary "*" left right = EvalM.ofExcept (.ok v) ∧
        v.IntegerJustIf fun r => r = a * b) ∧
      (b ≠ 0 →
        (∃ v, host.applyBinary "/" left right = EvalM.ofExcept (.ok v) ∧
          v.IntegerJustIf fun q => q * b = a) ∧
        ∃ r : Int64, host.applyBinary "%" left right = EvalM.ofExcept (.ok (.integer r)) ∧
          r.toInt.natAbs < b.natAbs ∧ b ∣ a - r.toInt ∧
          (r.toInt = 0 ∨ r.toInt.sign = a.sign)) ∧
      (b = 0 →
        host.applyBinary "/" left right = EvalM.ofExcept (.error .divisionByZero) ∧
        host.applyBinary "%" left right = EvalM.ofExcept (.error .divisionByZero)) ∧
      ∀ n : Int64, ∃ v, Value.applyUnary "-" (.integer n) = .ok v ∧
        v.IntegerJustIf fun r => r = -n.toInt := by
  obtain ⟨m, rfl, hm⟩ := Value.number?_of_integer? hleft
  obtain ⟨n, rfl, hn⟩ := Value.number?_of_integer? hright
  have hsome : ∀ {result : Int} (r : Int64), some result = some r.toInt ↔ r.toInt = result := by
    intro result r
    rw [Option.some.injEq, eq_comm]
  obtain ⟨sum, hsum, hsum'⟩ := applyBinary_integers host "+" rfl hleft hright nofun
  obtain ⟨difference, hdifference, hdifference'⟩ :=
    applyBinary_integers host "-" rfl hleft hright nofun
  obtain ⟨product, hproduct, hproduct'⟩ :=
    applyBinary_integers host "*" rfl hleft hright nofun
  refine ⟨⟨sum, hsum, hsum'.congr hsome⟩, ⟨difference, hdifference, hdifference'.congr hsome⟩,
    ⟨product, hproduct, hproduct'.congr hsome⟩, fun hb => ⟨?_, ?_⟩, fun hb => ?_, negate_integer⟩
  · obtain ⟨quotient, hquotient, hquotient'⟩ :=
      applyBinary_integers host "/" rfl hleft hright fun _ => hb
    exact ⟨quotient, hquotient, hquotient'.congr fun _ => Arithmetic.ofIntegers?_divide hb⟩
  · obtain ⟨r, hr, hvalue⟩ := Arithmetic.integers_remainder (a := m) hb
    refine ⟨r, hr ▸ applyBinary_numbers host "%" rfl hm hn, ?_⟩
    rw [hvalue]
    exact ⟨Arithmetic.natAbs_tmod_lt hb, Int.dvd_self_sub_tmod, Arithmetic.sign_tmod_of_rest⟩
  · exact ⟨@Arithmetic.integers_zero .divide m n rfl hb ▸
        applyBinary_numbers host "/" rfl hm hn,
      @Arithmetic.integers_zero .remainder m n rfl hb ▸
        applyBinary_numbers host "%" rfl hm hn⟩

/-- The least integer by minus one: the quotient is a float, and the remainder zero. -/
theorem integer_arithmetic_least :
    (Value.integer (-9223372036854775808)).integer? = some (-9223372036854775808) ∧
      (Value.integer (-1)).integer? = some (-1) ∧
      (∃ x, Command.bareHost.applyBinary "/" (.integer (-9223372036854775808)) (.integer (-1)) =
        EvalM.ofExcept (.ok (.float x))) ∧
      Command.bareHost.applyBinary "%" (.integer (-9223372036854775808)) (.integer (-1)) =
        EvalM.ofExcept (.ok (.integer 0)) := by
  have hleft : (Value.integer (-9223372036854775808)).integer? = some (-9223372036854775808) := rfl
  have hright : (Value.integer (-1)).integer? = some (-1) := rfl
  obtain ⟨-, -, -, hdivide, -, -⟩ := integer_arithmetic Command.bareHost hleft hright
  obtain ⟨⟨v, hquotient, hnumber, hinteger⟩, r, hremainder, hless, -, -⟩ := hdivide (by decide)
  refine ⟨hleft, hright, ?_, ?_⟩
  · cases v with
    | float x => exact ⟨x, hquotient⟩
    | integer q =>
      have hq := (hinteger q).mp rfl
      have hlt := q.toInt_lt
      omega
    | _ => cases hnumber
  · have hzero : r = 0 := Int64.toInt_inj.mp (show r.toInt = 0 by omega)
    rw [hremainder, hzero]

end Operators

end BindingLang
