import BindingLang.Proofs.Json.Same
import BindingLang.Value.Equality
import Mathlib
/-!
  Sameness of values.

  Sameness follows the structure of values: an integer is only the same as an integer,
  and a float as a float, at every depth. Arrays are compared position by position, and
  objects entry by entry.

  What is proved:
    1. `same_iff` — sameness is the relation `Alike` that is built up with the values.
    2. `Alike.trans`, `Alike.symm` — it is transitive and symmetric.
    3. `sameItems_iff`, `sameEntries_iff` — one level of arrays and objects.
-/

namespace BindingLang

namespace Value

/-- Whether two values are the same within their kinds. -/
inductive Alike : Value → Value → Prop where
  | undefined : Alike .undefined .undefined
  | null : Alike .null .null
  | boolean (b : Bool) : Alike (.boolean b) (.boolean b)
  | integer (n : Int64) : Alike (.integer n) (.integer n)
  | float {x y : Float} (number : (x == y) = true) : Alike (.float x) (.float y)
  | string (s : String) : Alike (.string s) (.string s)
  | array {items others : List Value} (each : List.Forall₂ Alike items others) :
      Alike (.array items) (.array others)
  | object {entries others : List (String × Value)}
      (each : List.Forall₂ (Entrywise Alike) entries others) :
      Alike (.object entries) (.object others)
  | function {f g : Function} (identity : f.id = g.id) : Alike (.function f) (.function g)
  | scope {links others : Scope} (identity : scopeId? links = scopeId? others) :
      Alike (.scope links) (.scope others)

mutual

theorem alike_of_same : (a : Value) → {b : Value} → a.same b = true → Alike a b
  | .undefined, b, h => by cases b with | undefined => exact .undefined | _ => cases h
  | .null, b, h => by cases b with | null => exact .null | _ => cases h
  | .boolean _, b, h => by
    cases b with
    | boolean _ => cases beq_iff_eq.mp h; exact .boolean _
    | _ => cases h
  | .integer _, b, h => by
    cases b with
    | integer _ => cases beq_iff_eq.mp h; exact .integer _
    | _ => cases h
  | .float _, b, h => by cases b with | float _ => exact .float h | _ => cases h
  | .string _, b, h => by
    cases b with
    | string _ => cases beq_iff_eq.mp h; exact .string _
    | _ => cases h
  | .array items, b, h => by
    cases b with
    | array others => exact .array (alike_of_sameItems items h)
    | _ => cases h
  | .object entries, b, h => by
    cases b with
    | object others => exact .object (alike_of_sameEntries entries h)
    | _ => cases h
  | .function _, b, h => by
    cases b with
    | function _ => exact .function (beq_iff_eq.mp h)
    | _ => cases h
  | .scope _, b, h => by
    cases b with
    | scope _ => exact .scope (beq_iff_eq.mp h)
    | _ => cases h

theorem alike_of_sameItems : (items : List Value) → {others : List Value} →
    sameItems items others = true → List.Forall₂ Alike items others
  | [], others, h => by cases others with | nil => exact .nil | cons _ _ => cases h
  | item :: items, others, h => by
    cases others with
    | nil => cases h
    | cons other others =>
      obtain ⟨hfirst, hrest⟩ := Bool.and_eq_true_iff.mp h
      exact .cons (alike_of_same item hfirst) (alike_of_sameItems items hrest)

theorem alike_of_sameEntries : (entries : List (String × Value)) →
    {others : List (String × Value)} → sameEntries entries others = true →
    List.Forall₂ (Entrywise Alike) entries others
  | [], others, h => by cases others with | nil => exact .nil | cons _ _ => cases h
  | (key, value) :: entries, others, h => by
    cases others with
    | nil => cases h
    | cons other others =>
      obtain ⟨hfirst, hrest⟩ := Bool.and_eq_true_iff.mp h
      obtain ⟨hkey, hvalue⟩ := Bool.and_eq_true_iff.mp hfirst
      cases beq_iff_eq.mp hkey
      exact .cons (.mk (alike_of_same value hvalue)) (alike_of_sameEntries entries hrest)

end

mutual

theorem same_of_alike : (a : Value) → {b : Value} → Alike a b → a.same b = true
  | .undefined, _, .undefined => rfl
  | .null, _, .null => rfl
  | .boolean b, _, .boolean _ => beq_self_eq_true b
  | .integer n, _, .integer _ => beq_self_eq_true n
  | .float _, _, .float number => number
  | .string s, _, .string _ => beq_self_eq_true s
  | .array items, _, .array each => sameItems_of_alike items each
  | .object entries, _, .object each => sameEntries_of_alike entries each
  | .function _, _, .function identity => beq_iff_eq.mpr identity
  | .scope _, _, .scope identity => beq_iff_eq.mpr identity

theorem sameItems_of_alike : (items : List Value) → {others : List Value} →
    List.Forall₂ Alike items others → sameItems items others = true
  | [], _, .nil => rfl
  | item :: items, _, .cons first rest =>
    Bool.and_eq_true_iff.mpr ⟨same_of_alike item first, sameItems_of_alike items rest⟩

theorem sameEntries_of_alike : (entries : List (String × Value)) →
    {others : List (String × Value)} → List.Forall₂ (Entrywise Alike) entries others →
    sameEntries entries others = true
  | [], _, .nil => rfl
  | (key, value) :: entries, _, .cons (.mk first) rest =>
    Bool.and_eq_true_iff.mpr ⟨Bool.and_eq_true_iff.mpr
      ⟨beq_self_eq_true key, same_of_alike value first⟩, sameEntries_of_alike entries rest⟩

end

theorem same_iff {a b : Value} : a.same b = true ↔ Alike a b :=
  ⟨alike_of_same a, same_of_alike a⟩

mutual

theorem alike_trans : (a : Value) → {b c : Value} → Alike a b → Alike b c → Alike a c
  | .undefined, _, _, .undefined, .undefined => .undefined
  | .null, _, _, .null, .null => .null
  | .boolean b, _, _, .boolean _, .boolean _ => .boolean b
  | .integer n, _, _, .integer _, .integer _ => .integer n
  | .float _, _, _, .float first, .float second => .float (PartialEquivBEq.trans first second)
  | .string s, _, _, .string _, .string _ => .string s
  | .array items, _, _, .array first, .array second =>
    .array (alike_trans_items items first second)
  | .object entries, _, _, .object first, .object second =>
    .object (alike_trans_entries entries first second)
  | .function _, _, _, .function first, .function second => .function (first.trans second)
  | .scope _, _, _, .scope first, .scope second => .scope (first.trans second)

theorem alike_trans_items : (items : List Value) → {others further : List Value} →
    List.Forall₂ Alike items others → List.Forall₂ Alike others further →
    List.Forall₂ Alike items further
  | [], _, _, .nil, .nil => .nil
  | item :: items, _, _, .cons first rest, .cons first' rest' =>
    .cons (alike_trans item first first') (alike_trans_items items rest rest')

theorem alike_trans_entries : (entries : List (String × Value)) →
    {others further : List (String × Value)} → List.Forall₂ (Entrywise Alike) entries others →
    List.Forall₂ (Entrywise Alike) others further →
    List.Forall₂ (Entrywise Alike) entries further
  | [], _, _, .nil, .nil => .nil
  | (_, value) :: entries, _, _, .cons (.mk first) rest, .cons (.mk first') rest' =>
    .cons (.mk (alike_trans value first first')) (alike_trans_entries entries rest rest')

end

theorem Alike.trans {a b c : Value} (hab : Alike a b) (hbc : Alike b c) : Alike a c :=
  alike_trans a hab hbc

mutual

theorem alike_symm : (a : Value) → {b : Value} → Alike a b → Alike b a
  | .undefined, _, .undefined => .undefined
  | .null, _, .null => .null
  | .boolean b, _, .boolean _ => .boolean b
  | .integer n, _, .integer _ => .integer n
  | .float _, _, .float number => .float (PartialEquivBEq.symm number)
  | .string s, _, .string _ => .string s
  | .array items, _, .array each => .array (alike_symm_items items each)
  | .object entries, _, .object each => .object (alike_symm_entries entries each)
  | .function _, _, .function identity => .function identity.symm
  | .scope _, _, .scope identity => .scope identity.symm

theorem alike_symm_items : (items : List Value) → {others : List Value} →
    List.Forall₂ Alike items others → List.Forall₂ Alike others items
  | [], _, .nil => .nil
  | item :: items, _, .cons first rest =>
    .cons (alike_symm item first) (alike_symm_items items rest)

theorem alike_symm_entries : (entries : List (String × Value)) →
    {others : List (String × Value)} → List.Forall₂ (Entrywise Alike) entries others →
    List.Forall₂ (Entrywise Alike) others entries
  | [], _, .nil => .nil
  | (_, value) :: entries, _, .cons (.mk first) rest =>
    .cons (.mk (alike_symm value first)) (alike_symm_entries entries rest)

end

theorem Alike.symm {a b : Value} (h : Alike a b) : Alike b a := alike_symm a h

theorem Alike.typeName_eq {a b : Value} (h : Alike a b) : a.typeName = b.typeName := by
  cases h <;> rfl

theorem sameItems_iff {items others : List Value} : sameItems items others = true ↔
    List.Forall₂ (fun a b => a.same b = true) items others := by
  induction items generalizing others with
  | nil => cases others <;> simp [sameItems]
  | cons item items ih => cases others <;> simp [sameItems, ih]

theorem sameEntries_iff {entries others : List (String × Value)} :
    sameEntries entries others = true ↔
      List.Forall₂ (Entrywise fun a b => a.same b = true) entries others := by
  induction entries generalizing others with
  | nil => cases others <;> simp [sameEntries]
  | cons entry entries ih =>
    cases others with
    | nil => simp [sameEntries]
    | cons other others => simp [sameEntries, ih, Entrywise.iff, and_assoc]

end Value

end BindingLang
