import BindingLang.Eval.Operator
import BindingLang.Proofs.Text.Split
import BindingLang.Value.Builtin
/-!
  Texts cut into arrays, and arrays joined to texts.

  What is proved:
    1. `texts_map_string` — the items of an array of texts are joined as they are.
    2. `join_split` — joining takes back what cutting did, and an array is joined in the
       same way wherever it turns into a text.
-/

namespace BindingLang

namespace Value

theorem texts_map_string (parts : List String) : texts (parts.map string) = parts := by
  induction parts with
  | nil => rfl
  | cons part parts ih =>
    show part :: texts (parts.map string) = _
    rw [ih]

theorem join_map_string (parts : List String) (separator : String) :
    join (parts.map string) separator = separator.intercalate parts := by
  rw [join, texts_map_string]

/-- The parts of a text as texts. -/
theorem split_eq (s separator : String) : split s separator =
    array (((Text.parts separator.toList s.toList).map String.ofList).map string) := by
  rw [split, List.map_map]
  rfl

theorem intercalate_map_ofList (separator : String) (parts : List (List Char)) :
    separator.intercalate (parts.map String.ofList) =
      String.ofList (separator.toList.intercalate parts) := by
  rw [← String.toList_inj, String.toList_ofList, String.toList_intercalate, List.map_map]
  congr 1
  simp [Function.comp_def]

end Value

variable {σ : Type}

open Value in
/-- Joining takes back what cutting a text did, with the empty separator as with any
other. A separator that is not empty stands in no part, and there is one part more than
places that are taken from left to right; the empty one leaves the single characters. And
an array has one text: by `toString`, by `join` with a comma or without an argument, and
next to the empty text. -/
theorem join_split (s separator : String) (items : List Value) (host : Host σ) :
    (∃ parts : List String,
      (string s).callBuiltin "split" [string separator] = .ok (array (parts.map string)) ∧
      (array (parts.map string)).callBuiltin "join" [string separator] = .ok (string s) ∧
      (separator ≠ "" →
        (∀ part ∈ parts, ∀ k, ¬ Text.OccursAt separator.toList part.toList k) ∧
        ∃ places, Text.Leftmost separator.toList s.toList 0 places ∧
          (∀ others, Text.Leftmost separator.toList s.toList 0 others → others = places) ∧
          parts.length = places.length + 1) ∧
      (separator = "" → parts = s.toList.map String.singleton)) ∧
    ∃ text : String,
      (∀ arguments, (array items).callBuiltin "toString" arguments = .ok (string text)) ∧
      (array items).callBuiltin "join" [] = .ok (string text) ∧
      (array items).callBuiltin "join" [string ","] = .ok (string text) ∧
      host.applyBinary "+" (array items) (string "") = pure (string text) ∧
      host.applyBinary "+" (string "") (array items) = pure (string text) := by
  constructor
  · refine ⟨(Text.parts separator.toList s.toList).map String.ofList,
      congrArg Except.ok (split_eq s separator), ?_, ?_, ?_⟩
    · show Except.ok (string (join _ separator)) = _
      rw [join_map_string, intercalate_map_ofList, Text.intercalate_parts, String.ofList_toList]
    · intro hseparator
      have hchars : separator.toList ≠ [] := mt String.toList_eq_nil_iff.mp hseparator
      have hzero := Nat.zero_le s.toList.length
      obtain ⟨places, hplaces⟩ := Text.exists_leftmost hchars hzero
      have hparts := hplaces.partsFrom_eq hchars hzero
      rw [List.drop_zero] at hparts
      rw [Text.parts_of_ne_nil hchars, hparts]
      constructor
      · intro part hpart k
        obtain ⟨piece, hpiece, rfl⟩ := List.mem_map.mp hpart
        rw [String.toList_ofList]
        exact hplaces.not_occursAt hchars hzero piece hpiece k
      · refine ⟨places, hplaces, fun others hothers => hothers.unique hplaces, ?_⟩
        rw [List.length_map, Text.length_pieces]
    · intro hseparator
      rw [hseparator, String.toList_empty, Text.parts_nil, List.map_map]
      rfl
  · refine ⟨(array items).text, fun arguments => rfl, rfl, rfl, ?_, ?_⟩
    · show EvalM.ofExcept (.ok (string ((array items).text ++ ""))) = _
      rw [String.append_empty]
      rfl
    · show EvalM.ofExcept (.ok (string ("" ++ (array items).text))) = _
      rw [String.empty_append]
      rfl

open Value in
/-- The separator has three places, the first two of them overlap, and two are taken. -/
theorem join_split_overlapping :
    "aa" ≠ "" ∧
    ∃ parts : List String,
      (string "aaabaa").callBuiltin "split" [string "aa"] = .ok (array (parts.map string)) ∧
      (array (parts.map string)).callBuiltin "join" [string "aa"] = .ok (string "aaabaa") ∧
      parts.length = 3 := by
  have hseparator : "aa" ≠ "" := by decide
  have htaken : Text.Leftmost "aa".toList "aaabaa".toList 0 [0, 4] := by
    refine .place (Nat.le_refl 0) ⟨by decide, rfl⟩ (fun j _ hj => absurd hj (Nat.not_lt_zero j))
      (.place (by decide) ⟨by decide, rfl⟩ ?_ (.none ?_))
    · intro j hlow hhigh hoccurs
      have hj : j = 2 ∨ j = 3 := by
        have hlow' : 2 ≤ j := hlow
        omega
      obtain rfl | rfl := hj
      · exact absurd hoccurs.2 (by decide)
      · exact absurd hoccurs.2 (by decide)
    · intro j hlow hoccurs
      have hlow' : 6 ≤ j := hlow
      have hend : j + 2 ≤ 6 := hoccurs.1
      omega
  obtain ⟨⟨parts, hsplit, hjoin, hplaces, -⟩, -⟩ :=
    join_split "aaabaa" "aa" [] (⟨fun _ _ _ => pure .undefined, fun _ _ _ => id⟩ : Host Unit)
  obtain ⟨-, places, -, hunique, hlength⟩ := hplaces hseparator
  refine ⟨hseparator, parts, hsplit, hjoin, ?_⟩
  rw [hlength, ← hunique _ htaken]
  rfl

end BindingLang
