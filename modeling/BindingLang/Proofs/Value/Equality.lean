import BindingLang.Proofs.Binary64.Integer
import BindingLang.Proofs.Value.Same
import Mathlib
/-!
  Strict equality.

  Strict equality is sameness, and takes an integer for equal to the floats that are
  equal to its own float. It does so only with values that stand by themselves: below
  an array or an object it is sameness, which tells integers from floats.

  What is proved:
    1. `strictEquals_iff` — strict equality is sameness, or matches an integer with a
       float.
    2. `strictEquals_comm` — it is symmetric.
    3. `strictEquals_trans_or` — it is transitive, unless a float stands between two
       different integers that both become it; those are from `2^53` on.
    4. `same_iff_strictEquals` — values are the same just if they are strictly equal
       and of one kind.
    5. `strictEquals_compound` — arrays and objects are strictly equal just if what
       they hold is, and is of the same kinds.
-/

namespace BindingLang

namespace Value

/-- Whether two values are the same within their kinds, or an integer and a float equal to
its own. -/
inductive Matches : Value → Value → Prop where
  | alike {a b : Value} (alike : Alike a b) : Matches a b
  | integerFloat {n : Int64} {x : Float} (number : (floatOfInteger n == x) = true) :
      Matches (.integer n) (.float x)
  | floatInteger {x : Float} {n : Int64} (number : (x == floatOfInteger n) = true) :
      Matches (.float x) (.integer n)

theorem strictEquals_eq_same {a b : Value} (h : (a.isNumber && b.isNumber) = false) :
    a.strictEquals b = a.same b := by
  unfold strictEquals
  split
  · cases h
  · rw [h, if_neg Bool.false_ne_true]

theorem strictEquals_iff {a b : Value} : a.strictEquals b = true ↔ Matches a b := by
  cases hnumbers : a.isNumber && b.isNumber with
  | false =>
    rw [strictEquals_eq_same hnumbers, same_iff]
    refine ⟨.alike, fun h => ?_⟩
    cases h with
    | alike h => exact h
    | integerFloat number => cases hnumbers
    | floatInteger number => cases hnumbers
  | true =>
    obtain ⟨ha, hb⟩ := Bool.and_eq_true_iff.mp hnumbers
    constructor
    · intro h
      cases a with
      | integer m =>
        cases b with
        | integer n => cases beq_iff_eq.mp h; exact .alike (.integer m)
        | float y => exact .integerFloat h
        | _ => cases hb
      | float x =>
        cases b with
        | integer n => exact .floatInteger h
        | float y => exact .alike (.float h)
        | _ => cases hb
      | _ => cases ha
    · intro h
      cases h with
      | alike h =>
        cases h with
        | integer n => exact beq_self_eq_true n
        | float number => exact number
        | _ => cases ha
      | integerFloat number => exact number
      | floatInteger number => exact number

theorem Matches.symm {a b : Value} (h : Matches a b) : Matches b a := by
  cases h with
  | alike alike => exact .alike alike.symm
  | integerFloat number => exact .floatInteger (PartialEquivBEq.symm number)
  | floatInteger number => exact .integerFloat (PartialEquivBEq.symm number)

theorem strictEquals_comm (a b : Value) : a.strictEquals b = b.strictEquals a := by
  rw [Bool.eq_iff_iff, strictEquals_iff, strictEquals_iff]
  exact ⟨Matches.symm, Matches.symm⟩

/-- Different integers with equal floats are both from `2^53` on. -/
theorem natAbs_of_floatOfInteger_beq {m n : Int64}
    (h : (floatOfInteger m == floatOfInteger n) = true) (hne : m ≠ n) :
    2 ^ 53 ≤ m.toInt.natAbs ∧ 2 ^ 53 ≤ n.toInt.natAbs := by
  have hread : ∀ k : Int64, ∃ e, Binary64.finite? (floatOfInteger k) = some e ∧
      e.value = Binary64.nearestInt k.toInt := by
    intro k
    have hlow := k.le_toInt
    have hhigh := k.toInt_lt
    obtain ⟨e, he, hvalue, -⟩ := Binary64.finite?_ofInt (n := k.toInt) (by omega)
    exact ⟨e, he, hvalue⟩
  obtain ⟨a, ha, hm⟩ := hread m
  obtain ⟨b, hb, hn⟩ := hread n
  have hnearest : Binary64.nearestInt m.toInt = Binary64.nearestInt n.toInt := by
    have hvalue := Binary64.value_eq_of_beq h ha hb
    rw [hm, hn] at hvalue
    exact_mod_cast hvalue
  have hne' : m.toInt ≠ n.toInt := fun heq => hne (Int64.toInt_inj.mp heq)
  exact ⟨Binary64.natAbs_of_nearestInt_eq hnearest hne',
    Binary64.natAbs_of_nearestInt_eq hnearest.symm hne'.symm⟩

/-- Strict equality is transitive, unless a float stands between two different integers:
both are from `2^53` on, and become that float. -/
theorem strictEquals_trans_or {a b c : Value} (hab : a.strictEquals b = true)
    (hbc : b.strictEquals c = true) : a.strictEquals c = true ∨
      ∃ (m n : Int64) (x : Float), a = .integer m ∧ b = .float x ∧ c = .integer n ∧ m ≠ n ∧
        2 ^ 53 ≤ m.toInt.natAbs ∧ 2 ^ 53 ≤ n.toInt.natAbs := by
  simp only [strictEquals_iff] at *
  cases hab with
  | alike hab =>
    refine .inl ?_
    cases hbc with
    | alike hbc => exact .alike (hab.trans hbc)
    | integerFloat number => cases hab; exact .integerFloat number
    | floatInteger number =>
      cases hab with
      | float first => exact .floatInteger (PartialEquivBEq.trans first number)
  | @integerFloat m x first =>
    cases hbc with
    | alike hbc =>
      cases hbc with
      | float second => exact .inl (.integerFloat (PartialEquivBEq.trans first second))
    | @floatInteger _ n second =>
      by_cases heq : m = n
      · exact .inl (.alike (heq ▸ .integer m))
      · exact .inr ⟨m, n, x, rfl, rfl, rfl, heq,
          natAbs_of_floatOfInteger_beq (PartialEquivBEq.trans first second) heq⟩
  | floatInteger first =>
    refine .inl ?_
    cases hbc with
    | alike hbc => cases hbc; exact .floatInteger first
    | integerFloat second => exact .alike (.float (PartialEquivBEq.trans first second))

/-- Both zeros are equal, and so are arrays of them. -/
theorem strictEquals_trans_or_zeros :
    (array [.float 0]).strictEquals (.array [.float (-0)]) = true ∧
      (array [.float (-0)]).strictEquals (.array [.float 0]) = true ∧
      (array [.float 0]).strictEquals (.array [.float 0]) = true := by
  have hab : (array [.float 0]).strictEquals (.array [.float (-0)]) = true := by decide
  have hbc : (array [.float (-0)]).strictEquals (.array [.float 0]) = true := by decide
  obtain hac | ⟨m, n, x, ⟨⟩, -⟩ := strictEquals_trans_or hab hbc
  exact ⟨hab, hbc, hac⟩

/-- The float of `2^53` is that of `2^53 + 1` too. -/
theorem strictEquals_not_trans :
    (integer 9007199254740992).strictEquals (.float (Float.ofBits 0x4340000000000000)) = true ∧
      (float (Float.ofBits 0x4340000000000000)).strictEquals (.integer 9007199254740993) = true ∧
      (integer 9007199254740992).strictEquals (.integer 9007199254740993) = false := by
  decide

/-! ## Arrays and objects -/

/-- Values are the same just if they are strictly equal and of one kind. -/
theorem same_iff_strictEquals {a b : Value} :
    a.same b = true ↔ a.strictEquals b = true ∧ a.typeName = b.typeName := by
  rw [same_iff, strictEquals_iff]
  constructor
  · exact fun h => ⟨.alike h, h.typeName_eq⟩
  · rintro ⟨h, hkind⟩
    cases h with
    | alike h => exact h
    | integerFloat number => exact absurd hkind (show "integer" ≠ "float" by decide)
    | floatInteger number => exact absurd hkind (show "float" ≠ "integer" by decide)

theorem strictEquals_array_iff {items others : List Value} :
    (array items).strictEquals (.array others) = true ↔ items.length = others.length ∧
      ∀ (i : Nat) (a b : Value), items[i]? = some a → others[i]? = some b →
        a.same b = true := by
  rw [strictEquals_eq_same rfl, same, sameItems_iff, List.forall₂_iff_get]
  refine and_congr_right fun _ => ⟨fun h i a b ha hb => ?_, fun h i hi hi' => ?_⟩
  · obtain ⟨hi, rfl⟩ := List.getElem?_eq_some_iff.mp ha
    obtain ⟨hi', rfl⟩ := List.getElem?_eq_some_iff.mp hb
    exact h i hi hi'
  · exact h i _ _ (List.getElem?_eq_getElem hi) (List.getElem?_eq_getElem hi')

theorem strictEquals_object_iff {entries others : Dict Value} (hentries : entries.Sorted)
    (hothers : others.Sorted) : (object entries).strictEquals (.object others) = true ↔
      (∀ key, entries.contains key = others.contains key) ∧
        ∀ (key : String) (a b : Value), entries.get? key = some a → others.get? key = some b →
          a.same b = true := by
  rw [strictEquals_eq_same rfl, same, sameEntries_iff, Entrywise.forall₂_iff hentries hothers]

/-- Arrays are strictly equal just if they are of one length and so are the two values at
every position, and these are of one kind; objects, if they have the same keys and so are
the two values of every key, and these are of one kind. -/
theorem strictEquals_compound (items others : List Value) {entries further : Dict Value}
    (hentries : entries.Sorted) (hfurther : further.Sorted) :
    ((array items).strictEquals (.array others) = true ↔
      (items.length = others.length ∧ ∀ (i : Nat) (a b : Value),
        items[i]? = some a → others[i]? = some b → a.strictEquals b = true) ∧
      ∀ (i : Nat) (a b : Value),
        items[i]? = some a → others[i]? = some b → a.typeName = b.typeName) ∧
    ((object entries).strictEquals (.object further) = true ↔
      ((∀ key, entries.contains key = further.contains key) ∧ ∀ (key : String) (a b : Value),
        entries.get? key = some a → further.get? key = some b → a.strictEquals b = true) ∧
      ∀ (key : String) (a b : Value),
        entries.get? key = some a → further.get? key = some b → a.typeName = b.typeName) := by
  simp only [strictEquals_array_iff, strictEquals_object_iff hentries hfurther,
    same_iff_strictEquals, and_assoc]
  constructor
  · refine and_congr_right fun _ => ⟨fun h => ?_, fun ⟨hequal, hkind⟩ i a b ha hb => ?_⟩
    · exact ⟨fun i a b ha hb => (h i a b ha hb).1, fun i a b ha hb => (h i a b ha hb).2⟩
    · exact ⟨hequal i a b ha hb, hkind i a b ha hb⟩
  · refine and_congr_right fun _ => ⟨fun h => ?_, fun ⟨hequal, hkind⟩ key a b ha hb => ?_⟩
    · exact ⟨fun key a b ha hb => (h key a b ha hb).1, fun key a b ha hb => (h key a b ha hb).2⟩
    · exact ⟨hequal key a b ha hb, hkind key a b ha hb⟩

/-- An integer and a float that are strictly equal are not so in an array or an object. -/
theorem strictEquals_compound_mixed :
    (integer 1).strictEquals (.float 1) = true ∧
      (array [.integer 1]).strictEquals (.array [.float 1]) = false ∧
      Dict.Sorted [("k", integer 1)] ∧ Dict.Sorted [("k", float 1)] ∧
      (object [("k", .integer 1)]).strictEquals (.object [("k", .float 1)]) = false := by
  have hsorted : Dict.Sorted [("k", integer 1)] := List.pairwise_singleton _ _
  have hsorted' : Dict.Sorted [("k", float 1)] := List.pairwise_singleton _ _
  obtain ⟨harray, hobject⟩ :=
    strictEquals_compound [.integer 1] [.float 1] hsorted hsorted'
  have hkinds : (integer 1).typeName ≠ (float 1).typeName :=
    show "integer" ≠ "float" by decide
  refine ⟨by decide, ?_, hsorted, hsorted', ?_⟩
  · rw [Bool.eq_false_iff, Ne, harray]
    exact fun h => hkinds (h.2 0 _ _ rfl rfl)
  · rw [Bool.eq_false_iff, Ne, hobject]
    exact fun h => hkinds (h.2 "k" _ _ rfl rfl)

end Value

end BindingLang
