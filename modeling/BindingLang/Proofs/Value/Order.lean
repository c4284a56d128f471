import BindingLang.Command.Basic
import BindingLang.Proofs.Eval.Dependencies
import Mathlib
/-!
  The order of scalars.

  Two texts are in the order of their characters, two integers in that of the
  integers, and any other two scalars in that of their numbers. Comparison and loose
  equality are decided apart, by different cases, but both follow this one order:
  texts and integers are loosely equal just if they are in place, and so are numbers.
  Only what is not a number has no place in it.

  What is proved:
    1. `floatOrder_eq` — the order of floats is that of what they unpack to.
    2. `order?_swap` — the other way round, the order is turned over.
    3. `compare_eq`, `looseEquals_eq` — comparison and loose equality follow it.
    4. `comparison_coherent` — so the operators on scalars are those of one order.
-/

namespace BindingLang

namespace Binary64

open Float.Model (UnpackedFloat)
open Float.Model.UnpackedFloat (Sign)

theorem compare_sign_swap (s t : Sign) : compare t s = (compare s t).swap := by
  cases s <;> cases t <;> rfl

theorem compare_magnitude_swap (m n : Nat) (d e : Int) :
    (compare e d).then (compare n m) = ((compare d e).then (compare m n)).swap := by
  rw [Ordering.swap_then, Int.compare_swap, Nat.compare_swap]

theorem compare_swap (a b : UnpackedFloat) : b.compare a = (a.compare b).map Ordering.swap := by
  cases a with
  | notANumber => cases b <;> rfl
  | infinity s =>
    cases b with
    | infinity t => exact congrArg some (compare_sign_swap s t)
    | _ => cases s <;> rfl
  | zero s =>
    cases b with
    | infinity t | finite t => cases t <;> rfl
    | _ => rfl
  | finite s m d =>
    cases b with
    | notANumber => rfl
    | infinity t => cases t <;> rfl
    | zero t => cases s <;> rfl
    | finite t n e =>
      -- Of two negative numbers the magnitudes are in the opposite order.
      have hmagnitude := compare_magnitude_swap m n d e
      cases s <;> cases t
      · exact congrArg (fun order => some order.swap) hmagnitude
      · rfl
      · rfl
      · exact congrArg some hmagnitude

theorem compare_eq_none_iff {a b : UnpackedFloat} :
    a.compare b = none ↔ a.isNaN = true ∨ b.isNaN = true := by
  fun_cases UnpackedFloat.compare a b <;> simp_all [UnpackedFloat.isNaN]

end Binary64

namespace Value

/-! ## Within one kind -/

/-- The order of two floats is that of what they unpack to. -/
theorem floatOrder_eq (x y : Float) :
    floatOrder x y = x.toModel.unpack.compare y.toModel.unpack := by
  have hless (x y : Float) : x < y ↔ x.toModel.unpack.compare y.toModel.unpack = some .lt := by
    show decide (x.toModel.unpack.lt y.toModel.unpack = true) = true ↔ _
    rw [decide_eq_true_eq]
    exact beq_iff_eq
  have hequal : (x == y) = (x.toModel.unpack.compare y.toModel.unpack == some .eq) := rfl
  unfold floatOrder
  simp only [hless, hequal, Binary64.compare_swap x.toModel.unpack]
  cases x.toModel.unpack.compare y.toModel.unpack with
  | none => rfl
  | some order => cases order <;> rfl

theorem floatOrder_swap (x y : Float) : floatOrder y x = (floatOrder x y).map Ordering.swap := by
  rw [floatOrder_eq, floatOrder_eq, Binary64.compare_swap]

theorem floatOrder_eq_none_iff {x y : Float} :
    floatOrder x y = none ↔ x.isNaN = true ∨ y.isNaN = true := by
  rw [floatOrder_eq, Binary64.compare_eq_none_iff]
  rfl

theorem beq_eq_floatOrder (x y : Float) : (x == y) = (floatOrder x y == some .eq) := by
  rw [floatOrder_eq]
  rfl

theorem textOrder_eq (s t : String) : textOrder s t = Ord.compare s t :=
  (LinearOrder.compare_eq_compareOfLessAndEq s t).symm

theorem integerOrder_eq (m n : Int64) : integerOrder m n = Ord.compare m.toInt n.toInt := by
  rw [LinearOrder.compare_eq_compareOfLessAndEq, compareOfLessAndEq, integerOrder]
  simp only [Int64.lt_iff_toInt_lt, Int64.toInt_inj]

/-- Booleans are equal just if the numbers are that they stand for. -/
theorem boolean_beq (p q : Bool) : (p == q) = ((boolean p).toNumber == (boolean q).toNumber) := by
  cases p <;> cases q <;> rfl

/-! ## The order of scalars -/

/-- The order of two scalars: of texts by their characters, of integers exactly, and
of all else by their numbers, where both have one. -/
def order? : Value → Value → Option Ordering
  | .string s, .string t => some (textOrder s t)
  | .integer m, .integer n => some (integerOrder m n)
  | a, b => floatOrder a.toNumber b.toNumber

@[simp] theorem order?_string (s t : String) :
    order? (.string s) (.string t) = some (textOrder s t) := rfl

@[simp] theorem order?_integer (m n : Int64) :
    order? (.integer m) (.integer n) = some (integerOrder m n) := rfl

variable {a b : Value}

theorem order?_swap (a b : Value) : order? b a = (order? a b).map Ordering.swap := by
  cases a with
  | string s =>
    cases b with
    | string t =>
      rw [order?_string, order?_string, textOrder_eq, textOrder_eq, Option.map_some, ← Std.OrientedOrd.eq_swap]
    | _ => exact floatOrder_swap _ _
  | integer m =>
    cases b with
    | integer n =>
      rw [order?_integer, order?_integer, integerOrder_eq, integerOrder_eq, Option.map_some,
        Int.compare_swap]
    | _ => exact floatOrder_swap _ _
  | _ => cases b <;> exact floatOrder_swap _ _

theorem order?_eq_some_iff {order : Ordering} :
    order? a b = some order ↔ order? b a = some order.swap := by
  rw [order?_swap a b]
  cases order? a b with
  | none => simp
  | some other => simp

/-- Two scalars are in order if they are texts, or both numbers are there. -/
theorem order?_ne_none (h : (a.isText = true ∧ b.isText = true) ∨
    (a.toNumber.isNaN = false ∧ b.toNumber.isNaN = false)) : order? a b ≠ none := by
  unfold order?
  split
  · exact Option.some_ne_none _
  · exact Option.some_ne_none _
  · rename_i htext _
    obtain ⟨ha, hb⟩ | ⟨ha, hb⟩ := h
    · cases a with
      | string s =>
        cases b with
        | string t => exact absurd rfl (htext s t rfl)
        | _ => cases hb
      | _ => cases ha
    · rw [Ne, floatOrder_eq_none_iff, ha, hb]
      simp

/-- Comparison follows the order. -/
theorem compare_eq (ha : a.isOrdered = true) (hb : b.isOrdered = true) (c : Comparison) :
    compare c a b = .ok (.boolean (c.holds (order? a b))) := by
  unfold compare
  split
  · rfl
  · rfl
  · rename_i htext hinteger
    rw [order?.eq_3 a b htext hinteger, ha, hb]
    rfl

/-- Loose equality of scalars follows the order. -/
theorem looseEquals_eq (ha : a.isScalar = true) (hb : b.isScalar = true) :
    a.looseEquals b = (order? a b == some .eq) := by
  cases a with
  | boolean p =>
    cases b with
    | boolean q => exact (boolean_beq p q).trans (beq_eq_floatOrder _ _)
    | integer | float | string => exact beq_eq_floatOrder _ _
    | _ => cases hb
  | integer m =>
    cases b with
    | integer n =>
      have hequal : (m == n) = (Ord.compare m.toInt n.toInt == .eq) := by
        rw [Bool.eq_iff_iff, beq_iff_eq, beq_iff_eq, compare_eq_iff_eq, Int64.toInt_inj]
      rw [order?_integer, integerOrder_eq]
      exact hequal
    | boolean | float | string => exact beq_eq_floatOrder _ _
    | _ => cases hb
  | float x =>
    cases b with
    | boolean | integer | float | string => exact beq_eq_floatOrder _ _
    | _ => cases hb
  | string s =>
    cases b with
    | string t =>
      have hequal : (s == t) = (Ord.compare s t == .eq) := by
        rw [Bool.eq_iff_iff, beq_iff_eq, beq_iff_eq, compare_eq_iff_eq]
      rw [order?_string, textOrder_eq]
      exact hequal
    | boolean | integer | float => exact beq_eq_floatOrder _ _
    | _ => cases hb
  | _ => cases ha

theorem isOrdered_of_isScalar (h : a.isScalar = true) : a.isOrdered = true := by
  cases a with
  | boolean | integer | float | string => rfl
  | _ => cases h

end Value

/-! ## The operators -/

namespace Comparison

/-- The orders of two operands in which the comparison holds of them. -/
def orders : Comparison → List Ordering
  | .less => [.lt]
  | .lessOrEqual => [.lt, .eq]
  | .greater => [.gt]
  | .greaterOrEqual => [.gt, .eq]

theorem holds_iff (c : Comparison) (order : Option Ordering) :
    c.holds order = true ↔ ∃ o ∈ c.orders, order = some o := by
  cases order with
  | none => simp [holds]
  | some order => cases c <;> cases order <;> simp [holds, orders]

end Comparison

namespace Host

variable {σ : Type}

/-- Whether an operator between two values comes to true. -/
def Holds (host : Host σ) (state : σ) (symbol : String) (left right : Value) : Prop :=
  (host.applyBinary symbol left right).result state = .ok (.boolean true)

end Host

section Operators

open Value

variable {σ : Type} (host : Host σ) (state : σ) {a b : Value}

theorem applyBinary_comparison (ha : a.isScalar = true) (hb : b.isScalar = true)
    (c : Comparison) : host.applyBinary c.symbol a b =
      EvalM.ofExcept (.ok (.boolean (c.holds (order? a b)))) := by
  rw [← compare_eq (isOrdered_of_isScalar ha) (isOrdered_of_isScalar hb)]
  cases c <;> rfl

theorem holds_comparison_iff (ha : a.isScalar = true) (hb : b.isScalar = true)
    (c : Comparison) : host.Holds state c.symbol a b ↔ ∃ o ∈ c.orders, order? a b = some o := by
  show (host.applyBinary c.symbol a b).result state = _ ↔ _
  rw [applyBinary_comparison host ha hb, ← Comparison.holds_iff]
  show Except.ok _ = Except.ok _ ↔ _
  rw [Except.ok.injEq, Value.boolean.injEq]

theorem holds_less_iff (ha : a.isScalar = true) (hb : b.isScalar = true) :
    host.Holds state "<" a b ↔ order? a b = some .lt := by
  have h : host.Holds state "<" a b ↔ ∃ o ∈ [Ordering.lt], order? a b = some o :=
    holds_comparison_iff host state ha hb .less
  simpa using h

theorem holds_lessOrEqual_iff (ha : a.isScalar = true) (hb : b.isScalar = true) :
    host.Holds state "<=" a b ↔ order? a b = some .lt ∨ order? a b = some .eq := by
  have h : host.Holds state "<=" a b ↔ ∃ o ∈ [Ordering.lt, .eq], order? a b = some o :=
    holds_comparison_iff host state ha hb .lessOrEqual
  simpa using h

theorem holds_greater_iff (ha : a.isScalar = true) (hb : b.isScalar = true) :
    host.Holds state ">" a b ↔ order? a b = some .gt := by
  have h : host.Holds state ">" a b ↔ ∃ o ∈ [Ordering.gt], order? a b = some o :=
    holds_comparison_iff host state ha hb .greater
  simpa using h

theorem holds_greaterOrEqual_iff (ha : a.isScalar = true) (hb : b.isScalar = true) :
    host.Holds state ">=" a b ↔ order? a b = some .gt ∨ order? a b = some .eq := by
  have h : host.Holds state ">=" a b ↔ ∃ o ∈ [Ordering.gt, .eq], order? a b = some o :=
    holds_comparison_iff host state ha hb .greaterOrEqual
  simpa using h

theorem holds_equal_iff (ha : a.isScalar = true) (hb : b.isScalar = true) :
    host.Holds state "==" a b ↔ order? a b = some .eq := by
  rw [← beq_iff_eq, ← looseEquals_eq ha hb]
  show Except.ok _ = Except.ok _ ↔ _
  rw [Except.ok.injEq, Value.boolean.injEq]

/-- On booleans, numbers and texts the comparisons and loose equality are those of one
order: no comparison fails, `<=` is less or equal, `>` and `>=` are `<` and `<=` the other
way round, no two of less, equal and greater hold, and one does of two texts and of two
values that are both numbers. Of two integers the order is that of the integers. -/
theorem comparison_coherent (ha : a.isScalar = true) (hb : b.isScalar = true) :
    (∀ c : Comparison, ∃ answer, host.applyBinary c.symbol a b =
      EvalM.ofExcept (.ok (.boolean answer))) ∧
    (host.Holds state "<=" a b ↔ host.Holds state "<" a b ∨ host.Holds state "==" a b) ∧
    (host.Holds state ">" a b ↔ host.Holds state "<" b a) ∧
    (host.Holds state ">=" a b ↔ host.Holds state "<=" b a) ∧
    ¬ (host.Holds state "<" a b ∧ host.Holds state "==" a b) ∧
    ¬ (host.Holds state "<" a b ∧ host.Holds state ">" a b) ∧
    ¬ (host.Holds state "==" a b ∧ host.Holds state ">" a b) ∧
    ((a.isText = true ∧ b.isText = true) ∨
        (a.toNumber.isNaN = false ∧ b.toNumber.isNaN = false) →
      host.Holds state "<" a b ∨ host.Holds state "==" a b ∨ host.Holds state ">" a b) ∧
    ∀ m n : Int64, a = .integer m → b = .integer n →
      (host.Holds state "<" a b ↔ m.toInt < n.toInt) ∧
      (host.Holds state "==" a b ↔ m.toInt = n.toInt) ∧
      (host.Holds state ">" a b ↔ n.toInt < m.toInt) := by
  rw [holds_less_iff host state ha hb, holds_less_iff host state hb ha,
    holds_lessOrEqual_iff host state ha hb, holds_lessOrEqual_iff host state hb ha,
    holds_greater_iff host state ha hb, holds_greaterOrEqual_iff host state ha hb,
    holds_equal_iff host state ha hb]
  refine ⟨fun c => ⟨_, applyBinary_comparison host ha hb c⟩, Iff.rfl, ?_, ?_, ?_, ?_, ?_,
    fun h => ?_, ?_⟩
  · exact order?_eq_some_iff
  · exact or_congr order?_eq_some_iff order?_eq_some_iff
  · rintro ⟨hless, hequal⟩
    cases hless.symm.trans hequal
  · rintro ⟨hless, hgreater⟩
    cases hless.symm.trans hgreater
  · rintro ⟨hequal, hgreater⟩
    cases hequal.symm.trans hgreater
  · obtain ⟨order, horder⟩ := Option.ne_none_iff_exists'.mp (order?_ne_none h)
    rw [horder]
    cases order <;> simp
  · rintro m n rfl rfl
    rw [order?_integer, integerOrder_eq, Option.some.injEq, Option.some.injEq, Option.some.injEq]
    exact ⟨compare_lt_iff_lt, compare_eq_iff_eq, compare_gt_iff_gt⟩

/-- The integer `2^53 + 1` and the float `2^53` are loosely equal, so neither is less. -/
theorem comparison_coherent_rounded :
    let n : Value := .integer 9007199254740993
    let x : Value := .float (Float.ofBits 0x4340000000000000)
    n.isScalar = true ∧ x.isScalar = true ∧ Command.bareHost.Holds () "<=" n x ∧
      ¬ Command.bareHost.Holds () "<" n x ∧ ¬ Command.bareHost.Holds () ">" n x := by
  intro n x
  have horder : order? n x = some .eq := by decide
  have hequal : Command.bareHost.Holds () "==" n x :=
    (holds_equal_iff Command.bareHost () rfl rfl).mpr horder
  obtain ⟨-, hlessOrEqual, -, -, hnotLess, -, hnotGreater, -⟩ :=
    @comparison_coherent Unit Command.bareHost () n x rfl rfl
  exact ⟨rfl, rfl, hlessOrEqual.mpr (.inr hequal), fun hless => hnotLess ⟨hless, hequal⟩,
    fun hgreater => hnotGreater ⟨hequal, hgreater⟩⟩

end Operators

end BindingLang
