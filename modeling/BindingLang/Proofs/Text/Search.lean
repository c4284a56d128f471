import BindingLang.Text.Search
import Mathlib.Data.List.Infix
/-!
  Places: where one text stands in another.

  A place is a number of characters, as everywhere in the library, so a text stands
  at a place just if as many characters as it has are it from there on. The empty
  text stands at every place, the end included.

  What is proved:
    1. `first_of_find?`, `absent_of_find?` — what a search finds is the first place,
       and it finds none just where there is none.
    2. `startsWith_iff`, `endsWith_iff` — the beginning and the end as places.
-/

namespace BindingLang

namespace Text

variable {needle text : List Char} {c : Char} {k : Nat}

/-- Whether `needle` stands at place `k` of the text. -/
def OccursAt (needle text : List Char) (k : Nat) : Prop :=
  k + needle.length ≤ text.length ∧ text.extract k (k + needle.length) = needle

theorem occursAt_iff_drop :
    OccursAt needle text k ↔ k + needle.length ≤ text.length ∧ needle <+: text.drop k := by
  rw [OccursAt, List.extract, Nat.add_sub_cancel_left, List.prefix_iff_eq_take, eq_comm]

theorem occursAt_empty (text : List Char) : OccursAt [] text 0 :=
  ⟨Nat.zero_le _, rfl⟩

theorem startsWith_iff : startsWith text needle = true ↔ OccursAt needle text 0 := by
  rw [startsWith, List.isPrefixOf_iff_prefix, occursAt_iff_drop, List.drop_zero, Nat.zero_add]
  constructor
  · intro h
    exact ⟨h.length_le, h⟩
  · rintro ⟨-, h⟩
    exact h

theorem endsWith_iff : endsWith text needle = true ↔
    needle.length ≤ text.length ∧ OccursAt needle text (text.length - needle.length) := by
  rw [endsWith, List.isSuffixOf_iff_suffix, occursAt_iff_drop]
  constructor
  · intro h
    have hle := h.length_le
    refine ⟨hle, by omega, ?_⟩
    rw [← List.suffix_iff_eq_drop.mp h]
  · rintro ⟨hle, -, h⟩
    have hlength : needle.length = (text.drop (text.length - needle.length)).length := by
      rw [List.length_drop]
      omega
    rw [List.suffix_iff_eq_drop]
    exact h.eq_of_length hlength

theorem occursAt_succ : OccursAt needle (c :: text) (k + 1) ↔ OccursAt needle text k := by
  rw [occursAt_iff_drop, occursAt_iff_drop, List.drop_succ_cons, List.length_cons]
  constructor
  · rintro ⟨hle, h⟩
    exact ⟨by omega, h⟩
  · rintro ⟨hle, h⟩
    exact ⟨by omega, h⟩

theorem occursAt_nil : OccursAt needle [] k ↔ k = 0 ∧ needle = [] := by
  rw [OccursAt, List.length_nil]
  constructor
  · rintro ⟨hle, -⟩
    exact ⟨by omega, List.eq_nil_of_length_eq_zero (by omega)⟩
  · rintro ⟨rfl, rfl⟩
    exact ⟨Nat.le_refl 0, rfl⟩

/-- A search finds the first place. -/
theorem first_of_find? (h : find? needle text = some k) :
    OccursAt needle text k ∧ ∀ j < k, ¬ OccursAt needle text j := by
  induction text generalizing k with
  | nil =>
    rw [find?] at h
    split at h
    · rename_i hempty
      cases h
      exact ⟨occursAt_nil.mpr ⟨rfl, List.isEmpty_iff.mp hempty⟩,
        fun j hj => absurd hj (Nat.not_lt_zero j)⟩
    · cases h
  | cons c text ih =>
    rw [find?] at h
    split at h
    · rename_i hfront
      cases h
      exact ⟨startsWith_iff.mp hfront, fun j hj => absurd hj (Nat.not_lt_zero j)⟩
    · rename_i hfront
      obtain ⟨i, hi, rfl⟩ := Option.map_eq_some_iff.mp h
      obtain ⟨hplace, hleast⟩ := ih hi
      refine ⟨occursAt_succ.mpr hplace, ?_⟩
      intro j hj hoccurs
      cases j with
      | zero => exact hfront (startsWith_iff.mpr hoccurs)
      | succ j => exact hleast j (by omega) (occursAt_succ.mp hoccurs)

/-- A search that finds nothing leaves no place. -/
theorem absent_of_find? (h : find? needle text = none) (k : Nat) : ¬ OccursAt needle text k := by
  induction text generalizing k with
  | nil =>
    rw [find?] at h
    split at h
    · cases h
    · rename_i hempty
      intro hoccurs
      exact hempty (List.isEmpty_iff.mpr (occursAt_nil.mp hoccurs).2)
  | cons c text ih =>
    rw [find?] at h
    split at h
    · cases h
    · rename_i hfront
      rw [Option.map_eq_none_iff] at h
      intro hoccurs
      cases k with
      | zero => exact hfront (startsWith_iff.mpr hoccurs)
      | succ k => exact ih h k (occursAt_succ.mp hoccurs)

end Text

end BindingLang
