import BindingLang.Json.Convert
import BindingLang.Proofs.Dict
/-!
  Values as JSON and back.

  A document is finite if all its floats are; a value is data if it could be that
  of such a document. Documents of values are always finite: what has no JSON
  form is null in them already. So one way is lossless from everything that is
  finite, the other way from data, and to go there, back and there again is the
  same as to go there.

  What is proved:
    1. `toJson_ofJson` — a finite document is that of its value.
    2. `ofJson_toJson` — a value that is data is that of its document.
    3. `finite_toJson` — the document of every value is finite.
-/

namespace BindingLang

/-- Whether every number of a document is an integer or a finite float. -/
inductive Json.Finite : Json → Prop where
  | null : Finite .null
  | boolean (b : Bool) : Finite (.boolean b)
  | integer (n : Int64) : Finite (.integer n)
  | float {x : Float} (finite : (Binary64.finite? x).isSome = true) : Finite (.float x)
  | string (s : String) : Finite (.string s)
  | array {items : List Json} (finite : ∀ item ∈ items, Finite item) : Finite (.array items)
  | object {entries : List (String × Json)} (finite : ∀ entry ∈ entries, Finite entry.2) :
    Finite (.object entries)

namespace Value

/-- Whether a value is made of nothing but null, booleans, integers, finite
floats, texts, arrays and objects. -/
inductive Data : Value → Prop where
  | null : Data .null
  | boolean (b : Bool) : Data (.boolean b)
  | integer (n : Int64) : Data (.integer n)
  | float {x : Float} (finite : (Binary64.finite? x).isSome = true) : Data (.float x)
  | string (s : String) : Data (.string s)
  | array {items : List Value} (data : ∀ item ∈ items, Data item) : Data (.array items)
  | object {entries : List (String × Value)} (data : ∀ entry ∈ entries, Data entry.2) :
    Data (.object entries)

mutual

/-- A finite document is that of its value. -/
theorem toJson_ofJson : {document : Json} → document.Finite → (ofJson document).toJson = document
  | .null, _ => rfl
  | .boolean _, _ => rfl
  | .integer _, _ => rfl
  | .float _, .float finite => if_pos finite
  | .string _, _ => rfl
  | .array _, .array finite => congrArg Json.array (itemsToJson_itemsOfJson finite)
  | .object _, .object finite => congrArg Json.object (entriesToJson_entriesOfJson finite)

theorem itemsToJson_itemsOfJson : {items : List Json} → (∀ item ∈ items, item.Finite) →
    itemsToJson (itemsOfJson items) = items
  | [], _ => rfl
  | item :: items, h => by
    have hitem := toJson_ofJson (h item List.mem_cons_self)
    have hitems := itemsToJson_itemsOfJson fun other ho => h other (List.mem_cons_of_mem _ ho)
    rw [itemsOfJson, itemsToJson, hitem, hitems]

theorem entriesToJson_entriesOfJson : {entries : List (String × Json)} →
    (∀ entry ∈ entries, entry.2.Finite) → entriesToJson (entriesOfJson entries) = entries
  | [], _ => rfl
  | (key, document) :: entries, h => by
    have hdocument := toJson_ofJson (h (key, document) List.mem_cons_self)
    have hentries :=
      entriesToJson_entriesOfJson fun other ho => h other (List.mem_cons_of_mem _ ho)
    rw [entriesOfJson, entriesToJson, hdocument, hentries]

end

mutual

/-- A value that is data is that of its document. -/
theorem ofJson_toJson : {value : Value} → value.Data → ofJson value.toJson = value
  | .null, _ => rfl
  | .boolean _, _ => rfl
  | .integer _, _ => rfl
  | .float x, .float finite => by
    have hfloat : (float x).toJson = .float x := if_pos finite
    rw [hfloat, ofJson]
  | .string _, _ => rfl
  | .array _, .array data => congrArg Value.array (itemsOfJson_itemsToJson data)
  | .object _, .object data => congrArg Value.object (entriesOfJson_entriesToJson data)

theorem itemsOfJson_itemsToJson : {items : List Value} → (∀ item ∈ items, item.Data) →
    itemsOfJson (itemsToJson items) = items
  | [], _ => rfl
  | item :: items, h => by
    have hitem := ofJson_toJson (h item List.mem_cons_self)
    have hitems := itemsOfJson_itemsToJson fun other ho => h other (List.mem_cons_of_mem _ ho)
    rw [itemsToJson, itemsOfJson, hitem, hitems]

theorem entriesOfJson_entriesToJson : {entries : List (String × Value)} →
    (∀ entry ∈ entries, entry.2.Data) → entriesOfJson (entriesToJson entries) = entries
  | [], _ => rfl
  | (key, value) :: entries, h => by
    have hvalue := ofJson_toJson (h (key, value) List.mem_cons_self)
    have hentries :=
      entriesOfJson_entriesToJson fun other ho => h other (List.mem_cons_of_mem _ ho)
    rw [entriesToJson, entriesOfJson, hvalue, hentries]

end

theorem finite_ofFloat (x : Float) : (Json.ofFloat x).Finite := by
  unfold Json.ofFloat
  split
  · rename_i finite
    exact .float finite
  · exact .null

mutual

/-- The document of every value is finite. -/
theorem finite_toJson : (value : Value) → value.toJson.Finite
  | .undefined => .null
  | .null => .null
  | .boolean b => .boolean b
  | .integer n => .integer n
  | .float x => finite_ofFloat x
  | .string s => .string s
  | .array items => .array (finite_itemsToJson items)
  | .object entries => .object (finite_entriesToJson entries)
  | .function _ => .null
  | .scope links => .object (finite_visibleToJson links)

theorem finite_itemsToJson : (items : List Value) → ∀ item ∈ itemsToJson items, item.Finite
  | item :: items, _, h => by
    obtain rfl | h := List.mem_cons.mp h
    · exact finite_toJson item
    · exact finite_itemsToJson items _ h

theorem finite_entriesToJson : (entries : List (String × Value)) →
    ∀ entry ∈ entriesToJson entries, entry.2.Finite
  | (_, value) :: entries, _, h => by
    obtain rfl | h := List.mem_cons.mp h
    · exact finite_toJson value
    · exact finite_entriesToJson entries _ h

theorem finite_visibleToJson : (links : List (Link Value)) →
    ∀ entry ∈ visibleToJson links, entry.2.Finite
  | ⟨_, bindings, _⟩ :: outer, entry, h => by
    obtain h | h := Dict.mem_overlay h
    · exact finite_visibleToJson outer entry h
    · exact finite_entriesToJson bindings entry h

end

end Value

end BindingLang
