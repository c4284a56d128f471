import BindingLang.Proofs.Value.Equality
import Mathlib
/-!
  Loose equality.

  Loose equality takes what is absent for one, and compares scalars of different kinds
  by their numbers. Everything else it leaves to strict equality. What is strictly
  equal is so loosely too, and neither equality tells left from right.

  What is proved:
    1. `looseEquals_iff` — values are loosely equal just if both are absent, or they
       are strictly equal, or scalars of different kinds with equal numbers.
    2. `equalities_symmetric` — both equalities are symmetric, and strict equality is
       the finer one.
-/

namespace BindingLang

namespace Value

/-- Whether two values are both absent, or strictly equal, or scalars of different kinds
with equal numbers. -/
inductive LooselyMatches (a b : Value) : Prop where
  | absent (left : a.isAbsent = true) (right : b.isAbsent = true)
  | strict (equal : a.strictEquals b = true)
  | scalars (left : a.isScalar = true) (right : b.isScalar = true)
      (kinds : a.typeName ≠ b.typeName) (number : (a.toNumber == b.toNumber) = true)

variable {a b : Value}

theorem LooselyMatches.symm (h : LooselyMatches a b) : LooselyMatches b a := by
  cases h with
  | absent left right => exact .absent right left
  | strict equal => exact .strict (strictEquals_comm a b ▸ equal)
  | scalars left right kinds number =>
    exact .scalars right left kinds.symm (PartialEquivBEq.symm number)

theorem Matches.isAbsent_eq (h : Matches a b) : a.isAbsent = b.isAbsent := by
  cases h with
  | alike h => cases h <;> rfl
  | integerFloat | floatInteger => rfl

theorem isAbsent_of_isScalar (h : a.isScalar = true) : a.isAbsent = false := by
  cases a with
  | undefined | null => cases h
  | _ => rfl

/-- What is strictly equal and of different kinds is an integer and a float. -/
theorem Matches.number_beq (h : Matches a b) (hkinds : a.typeName ≠ b.typeName) :
    (a.toNumber == b.toNumber) = true := by
  cases h with
  | alike h => exact absurd h.typeName_eq hkinds
  | integerFloat number => exact number
  | floatInteger number => exact number

/-- Scalars of different kinds are compared by their numbers. -/
theorem looseEquals_of_kinds (ha : a.isScalar = true) (hb : b.isScalar = true)
    (hkinds : a.typeName ≠ b.typeName) : a.looseEquals b = (a.toNumber == b.toNumber) := by
  cases a with
  | boolean | integer | float | string =>
    cases b with
    | boolean | integer | float | string => first | rfl | exact absurd rfl hkinds
    | _ => cases hb
  | _ => cases ha

/-- Scalars of one kind, and what is no scalar, are compared strictly. -/
theorem looseEquals_of_kind (habsent : (a.isAbsent || b.isAbsent) = false)
    (hkind : a.isScalar = true → b.isScalar = true → a.typeName = b.typeName) :
    a.looseEquals b = a.strictEquals b := by
  cases a with
  | undefined | null => cases habsent
  | boolean | integer | float | string =>
    cases b with
    | undefined | null => cases habsent
    | boolean | integer | float | string =>
      first | rfl | exact absurd (hkind rfl rfl) (by simp [typeName])
    | _ => rfl
  | _ =>
    cases b with
    | undefined | null => cases habsent
    | _ => rfl

theorem looseEquals_iff : a.looseEquals b = true ↔ LooselyMatches a b := by
  by_cases habsent : (a.isAbsent || b.isAbsent) = true
  · rw [looseEquals, if_pos habsent, Bool.and_eq_true]
    refine ⟨fun h => .absent h.1 h.2, fun h => ?_⟩
    cases h with
    | absent left right => exact ⟨left, right⟩
    | strict equal =>
      have heq := (strictEquals_iff.mp equal).isAbsent_eq
      rw [heq, Bool.or_self] at habsent
      exact ⟨heq.trans habsent, habsent⟩
    | scalars left right =>
      rw [isAbsent_of_isScalar left, isAbsent_of_isScalar right] at habsent
      cases habsent
  rw [Bool.not_eq_true] at habsent
  have hnot : ¬ (a.isAbsent = true ∧ b.isAbsent = true) := by
    rintro ⟨left, right⟩
    rw [left] at habsent
    cases habsent
  by_cases hkinds : a.isScalar = true ∧ b.isScalar = true ∧ a.typeName ≠ b.typeName
  · obtain ⟨ha, hb, hkinds⟩ := hkinds
    rw [looseEquals_of_kinds ha hb hkinds]
    refine ⟨.scalars ha hb hkinds, fun h => ?_⟩
    cases h with
    | absent left right => exact absurd ⟨left, right⟩ hnot
    | strict equal => exact (strictEquals_iff.mp equal).number_beq hkinds
    | scalars left right kinds number => exact number
  · have hkind : a.isScalar = true → b.isScalar = true → a.typeName = b.typeName :=
      fun ha hb => not_not.mp fun hne => hkinds ⟨ha, hb, hne⟩
    rw [looseEquals_of_kind habsent hkind]
    refine ⟨.strict, fun h => ?_⟩
    cases h with
    | absent left right => exact absurd ⟨left, right⟩ hnot
    | strict equal => exact equal
    | scalars left right kinds number => exact absurd ⟨left, right, kinds⟩ hkinds

/-- Both equalities are symmetric, and strict equality is finer than loose equality. -/
theorem equalities_symmetric (a b : Value) : a.strictEquals b = b.strictEquals a ∧
    a.looseEquals b = b.looseEquals a ∧ (a.strictEquals b = true → a.looseEquals b = true) := by
  refine ⟨strictEquals_comm a b, ?_, fun h => looseEquals_iff.mpr (.strict h)⟩
  rw [Bool.eq_iff_iff, looseEquals_iff, looseEquals_iff]
  exact ⟨LooselyMatches.symm, LooselyMatches.symm⟩

/-- Both zeros are equal, also within arrays and objects. -/
theorem equalities_symmetric_zeros :
    let a : Value := .object [("zeros", .array [.float 0, .integer 0])]
    let b : Value := .object [("zeros", .array [.float (-0), .integer 0])]
    a.strictEquals b = true ∧ b.strictEquals a = true ∧ a.looseEquals b = true ∧
      b.looseEquals a = true := by
  intro a b
  have hstrict : a.strictEquals b = true := by decide
  obtain ⟨hcomm, hloose, hfiner⟩ := equalities_symmetric a b
  exact ⟨hstrict, hcomm ▸ hstrict, hfiner hstrict, hloose ▸ hfiner hstrict⟩

end Value

end BindingLang
