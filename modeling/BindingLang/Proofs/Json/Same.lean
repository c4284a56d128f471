import BindingLang.Json.Basic
import BindingLang.Proofs.Dict
import Mathlib.Data.List.Perm.Basic
/-!
  Sameness of documents, with floats that are compared as one likes.

  Two documents are the same if they are built alike of the same scalars. Floats
  can be compared by their bits or as numbers, where both zeros are one, so what
  they are compared by is a parameter. Compared by equality, the same documents
  are equal.

  What is proved:
    1. `Entrywise.forall₂_iff` — in order of their keys, entries are related one by one
       just if they are under each key.
    2. `same_eq_iff` — documents are the same with equal floats just if they are
       equal.
    3. `same_ofFields_iff` — two objects of fields with distinct keys are the same
       just if the fields are, one by one, in some order.
    4. `same_ofFields_iff_of_keys` — with the same keys in the same order, the
       fields are the same one by one as they stand.
-/

namespace BindingLang

/-- Whether two entries have one key, and related values. -/
inductive Entrywise {α β : Type} (S : α → β → Prop) : String × α → String × β → Prop where
  | mk {key : String} {a : α} {b : β} (value : S a b) : Entrywise S (key, a) (key, b)

namespace Entrywise

variable {α β : Type} {S : α → β → Prop}

@[simp] theorem mk_iff {key : String} {a : α} {b : β} :
    Entrywise S (key, a) (key, b) ↔ S a b :=
  ⟨fun h => by cases h; assumption, .mk⟩

theorem keys_eq {entries : List (String × α)} {others : List (String × β)}
    (h : List.Forall₂ (Entrywise S) entries others) :
    entries.map Prod.fst = others.map Prod.fst := by
  induction h with
  | nil => rfl
  | cons first rest ih =>
    cases first
    exact congrArg _ ih

variable {d : Dict α} {d' : Dict β}

theorem iff {entry : String × α} {other : String × β} :
    Entrywise S entry other ↔ entry.1 = other.1 ∧ S entry.2 other.2 := by
  constructor
  · rintro ⟨hvalue⟩
    exact ⟨rfl, hvalue⟩
  · obtain ⟨key, a⟩ := entry
    rintro ⟨rfl, hvalue⟩
    exact .mk hvalue

/-- Entries that are related one by one are related under every key. -/
theorem rel_get? (h : List.Forall₂ (Entrywise S) d d') (name : String) :
    Option.Rel S (d.get? name) (d'.get? name) := by
  induction h with
  | nil => exact .none
  | cons first rest ih =>
    obtain ⟨hvalue⟩ := first
    simp only [Dict.get?]
    split
    · exact .some hvalue
    · exact ih

/-- Of entries in order the first has the least key. -/
theorem first_le {key name : String} {value found : α} {rest : Dict α}
    (hd : Dict.Sorted ((key, value) :: rest))
    (h : Dict.get? ((key, value) :: rest) name = some found) : key = name ∨ key < name := by
  obtain heq | hmem := List.mem_cons.mp (Dict.mem_of_get? h)
  · cases heq
    exact .inl rfl
  · exact .inr ((List.pairwise_cons.mp hd).1 _ hmem)

/-- In order of their keys, entries that are related under every key are related one by
one. -/
theorem of_rel_get? (hd : d.Sorted) (hd' : d'.Sorted)
    (h : ∀ name, Option.Rel S (d.get? name) (d'.get? name)) :
    List.Forall₂ (Entrywise S) d d' := by
  induction d generalizing d' with
  | nil =>
    cases d' with
    | nil => exact .nil
    | cons entry rest =>
      have hfirst := h entry.1
      rw [Dict.get?_nil, Dict.get?, if_pos rfl] at hfirst
      cases hfirst
  | cons entry rest ih =>
    obtain ⟨key, value⟩ := entry
    have hfirst := h key
    rw [Dict.get?, if_pos rfl] at hfirst
    cases d' with
    | nil => cases hfirst
    | cons entry' rest' =>
      obtain ⟨key', value'⟩ := entry'
      have hfirst' := h key'
      rw [show Dict.get? ((key', value') :: rest') key' = some value' from if_pos rfl] at hfirst'
      -- Either first key is among the others, so neither is less.
      have hkey : key = key' := by
        generalize hfound : Dict.get? ((key', value') :: rest') key = found at hfirst
        generalize hfound' : Dict.get? ((key, value) :: rest) key' = found' at hfirst'
        cases hfirst
        cases hfirst'
        obtain heq | hlt := first_le hd' hfound
        · exact heq.symm
        obtain heq | hlt' := first_le hd hfound'
        · exact heq
        · exact absurd (String.lt_trans hlt hlt') (String.lt_irrefl _)
      subst hkey
      obtain ⟨hgreater, hsorted⟩ := List.pairwise_cons.mp hd
      obtain ⟨hgreater', hsorted'⟩ := List.pairwise_cons.mp hd'
      rw [Dict.get?, if_pos rfl] at hfirst
      cases hfirst with
      | some hvalue =>
        refine .cons (.mk hvalue) (ih hsorted hsorted' fun name => ?_)
        by_cases hname : key = name
        · subst hname
          rw [Dict.get?_eq_none fun entry hentry => (String.ne_of_lt (hgreater entry hentry)).symm,
            Dict.get?_eq_none fun entry hentry => (String.ne_of_lt (hgreater' entry hentry)).symm]
          exact .none
        · have hrest := h name
          rwa [Dict.get?, Dict.get?, if_neg hname, if_neg hname] at hrest

theorem rel_iff {x : Option α} {y : Option β} : Option.Rel S x y ↔
    x.isSome = y.isSome ∧ ∀ a b, x = some a → y = some b → S a b := by
  constructor
  · intro h
    cases h with
    | some hvalue => exact ⟨rfl, by rintro _ _ ⟨⟩ ⟨⟩; exact hvalue⟩
    | none => exact ⟨rfl, nofun⟩
  · rintro ⟨hsome, hvalue⟩
    cases x with
    | none =>
      cases y with
      | none => exact .none
      | some b => cases hsome
    | some a =>
      cases y with
      | none => cases hsome
      | some b => exact .some (hvalue a b rfl rfl)

/-- In order of their keys, entries are related one by one just if they have the same keys,
and related values under each. -/
theorem forall₂_iff (hd : d.Sorted) (hd' : d'.Sorted) : List.Forall₂ (Entrywise S) d d' ↔
    (∀ name, d.contains name = d'.contains name) ∧
      ∀ name a b, d.get? name = some a → d'.get? name = some b → S a b := by
  rw [← forall_and]
  simp only [Dict.contains, ← rel_iff]
  exact ⟨rel_get?, of_rel_get? hd hd'⟩

end Entrywise

namespace Json

/-- Whether two documents are the same, with floats that `R` relates. -/
inductive Same (R : Float → Float → Prop) : Json → Json → Prop where
  | null : Same R .null .null
  | boolean (b : Bool) : Same R (.boolean b) (.boolean b)
  | integer (n : Int64) : Same R (.integer n) (.integer n)
  | float {x y : Float} (number : R x y) : Same R (.float x) (.float y)
  | string (s : String) : Same R (.string s) (.string s)
  | array {items others : List Json} (each : List.Forall₂ (Same R) items others) :
      Same R (.array items) (.array others)
  | object {entries others : List (String × Json)}
      (each : List.Forall₂ (Entrywise (Same R)) entries others) :
      Same R (.object entries) (.object others)

section Equality

mutual

theorem same_refl : (document : Json) → Same Eq document document
  | .null => .null
  | .boolean b => .boolean b
  | .integer n => .integer n
  | .float _ => .float rfl
  | .string s => .string s
  | .array items => .array (same_refl_items items)
  | .object entries => .object (same_refl_entries entries)

theorem same_refl_items : (items : List Json) → List.Forall₂ (Same Eq) items items
  | [] => .nil
  | item :: items => .cons (same_refl item) (same_refl_items items)

theorem same_refl_entries : (entries : List (String × Json)) →
    List.Forall₂ (Entrywise (Same Eq)) entries entries
  | [] => .nil
  | (_, document) :: entries => .cons (.mk (same_refl document)) (same_refl_entries entries)

end

mutual

theorem eq_of_same : (document : Json) → {other : Json} → Same Eq document other →
    document = other
  | .null, _, .null => rfl
  | .boolean _, _, .boolean _ => rfl
  | .integer _, _, .integer _ => rfl
  | .float _, _, .float number => congrArg Json.float number
  | .string _, _, .string _ => rfl
  | .array items, _, .array each => congrArg Json.array (eq_of_same_items items each)
  | .object entries, _, .object each => congrArg Json.object (eq_of_same_entries entries each)

theorem eq_of_same_items : (items : List Json) → {others : List Json} →
    List.Forall₂ (Same Eq) items others → items = others
  | [], _, .nil => rfl
  | item :: items, _, .cons first rest =>
    congr (congrArg List.cons (eq_of_same item first)) (eq_of_same_items items rest)

theorem eq_of_same_entries : (entries : List (String × Json)) → {others : List (String × Json)} →
    List.Forall₂ (Entrywise (Same Eq)) entries others → entries = others
  | [], _, .nil => rfl
  | (key, document) :: entries, _, .cons (.mk first) rest =>
    congr (congrArg (fun value => List.cons (key, value)) (eq_of_same document first))
      (eq_of_same_entries entries rest)

end

/-- With equal floats the same documents are equal. -/
theorem same_eq_iff {document other : Json} : Same Eq document other ↔ document = other :=
  ⟨eq_of_same document, fun h => h ▸ same_refl document⟩

end Equality

section Fields

variable {R : Float → Float → Prop} {fields others : List (String × Json)}

theorem same_object_iff : Same R (.object fields) (.object others) ↔
    List.Forall₂ (Entrywise (Same R)) fields others :=
  ⟨fun h => by cases h; assumption, .object⟩

theorem same_array_iff {items others : List Json} :
    Same R (.array items) (.array others) ↔ List.Forall₂ (Same R) items others :=
  ⟨fun h => by cases h; assumption, .array⟩

/-- Two objects of fields with distinct keys are the same just if the fields are, in
some order. -/
theorem same_ofFields_iff (hfields : (fields.map Prod.fst).Nodup)
    (hothers : (others.map Prod.fst).Nodup) :
    Same R (ofFields fields) (ofFields others) ↔
      ∃ arranged, others.Perm arranged ∧ List.Forall₂ (Entrywise (Same R)) fields arranged := by
  have hperm := Dict.perm_ofList hfields
  have hperm' := Dict.perm_ofList hothers
  rw [ofFields, ofFields, same_object_iff]
  constructor
  · intro h
    obtain ⟨arranged, heach, horder⟩ := List.perm_comp_forall₂ hperm.symm h
    exact ⟨arranged, (horder.trans hperm').symm, heach⟩
  · rintro ⟨arranged, horder, heach⟩
    obtain ⟨sorted, hsame, hsorted⟩ := List.perm_comp_forall₂ hperm heach
    -- Both sides are in the order of their keys, and there is only one.
    have hkeys : Dict.Sorted sorted := by
      rw [Dict.sorted_iff, ← Entrywise.keys_eq hsame, ← Dict.sorted_iff]
      exact Dict.sorted_ofList fields
    have heq : sorted = Dict.ofList others :=
      Dict.eq_of_perm ((hsorted.trans horder.symm).trans hperm'.symm) hkeys
        (Dict.sorted_ofList others)
    rwa [← heq]

/-- With the same keys in the same order the fields are the same as they stand. -/
theorem same_ofFields_iff_of_keys (hkeys : fields.map Prod.fst = others.map Prod.fst)
    (hothers : (others.map Prod.fst).Nodup) :
    Same R (ofFields fields) (ofFields others) ↔
      List.Forall₂ (Entrywise (Same R)) fields others := by
  rw [same_ofFields_iff (hkeys ▸ hothers) hothers]
  constructor
  · rintro ⟨arranged, horder, heach⟩
    have harranged : arranged.map Prod.fst = others.map Prod.fst :=
      (Entrywise.keys_eq heach).symm.trans hkeys
    rwa [Dict.eq_of_perm_of_keys horder.symm harranged hothers] at heach
  · exact fun heach => ⟨others, List.Perm.refl _, heach⟩

end Fields

end Json

end BindingLang
