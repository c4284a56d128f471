import BindingLang.Json.Reader
import BindingLang.Proofs.Json.RoundTrip
/-!
  What reading JSON text delivers.

  Every document that is read is finite, and an object is read from a text that
  has a brace, with its entries in the order of their keys. So a scope that is
  read from an object's text is one link of that object's entries, and as a
  value its document is the object again.

  What is proved:
    1. `Read.form_of_document?` — how documents are read, form by form.
    2. `finite_of_ofText?` — what is read is finite.
    3. `object_of_ofText?` — an object that is read is sorted, and its text is not
       blank.
-/

namespace BindingLang

namespace Json

namespace Read

/-- The forms of what is read from a text in one step: arrays and objects are
empty or have their items or entries read in further steps, and all that begins
in no other way is a number. -/
inductive Form (fuel : Nat) (cs : List Char) : Json → Prop where
  | null : Form fuel cs .null
  | boolean (b : Bool) : Form fuel cs (.boolean b)
  | string (s : String) : Form fuel cs (.string s)
  | emptyArray : Form fuel cs (.array [])
  | array {depth : Nat} {inner : List Char} {items : List Json} {rest : List Char}
      (read : items? fuel depth inner = some (items, rest)) : Form fuel cs (.array items)
  | emptyObject (brace : '\x7b' ∈ cs) : Form fuel cs (ofFields [])
  | object {depth : Nat} {inner : List Char} {entries : List (String × Json)} {rest : List Char}
      (brace : '\x7b' ∈ cs) (read : entries? fuel depth inner = some (entries, rest)) :
      Form fuel cs (ofFields entries)
  | number {inner rest : List Char} {document : Json}
      (read : number? inner = some (document, rest)) : Form fuel cs document

theorem mem_of_skipBlanks {cs rest : List Char} {c : Char} (h : skipBlanks cs = c :: rest) :
    c ∈ cs := by
  have hmem : c ∈ skipBlanks cs := h ▸ List.mem_cons_self
  exact (List.dropWhile_suffix _).subset hmem

theorem eq_of_map {α : Type} {read : Option α} {f : α → Json} {g : α → List Char}
    {document : Json} {rest : List Char}
    (h : read.map (fun r => (f r, g r)) = some (document, rest)) :
    ∃ r, read = some r ∧ f r = document := by
  obtain ⟨r, hread, heq⟩ := Option.map_eq_some_iff.mp h
  exact ⟨r, hread, congrArg Prod.fst heq⟩

theorem form_of_document? {fuel depth : Nat} {cs rest : List Char} {document : Json}
    (h : document? (fuel + 1) depth cs = some (document, rest)) : Form fuel cs document := by
  rw [document?] at h
  split at h
  · cases h
  rename_i c inner hskip
  by_cases hn : c = 'n'
  · rw [if_pos hn] at h
    obtain ⟨_, -, rfl⟩ := eq_of_map h
    exact .null
  rw [if_neg hn] at h
  by_cases ht : c = 't'
  · rw [if_pos ht] at h
    obtain ⟨_, -, rfl⟩ := eq_of_map h
    exact .boolean true
  rw [if_neg ht] at h
  by_cases hf : c = 'f'
  · rw [if_pos hf] at h
    obtain ⟨_, -, rfl⟩ := eq_of_map h
    exact .boolean false
  rw [if_neg hf] at h
  by_cases hq : c = '"'
  · rw [if_pos hq] at h
    obtain ⟨s, -, rfl⟩ := eq_of_map h
    exact .string s.1
  rw [if_neg hq] at h
  by_cases ha : c = '['
  · rw [if_pos ha] at h
    split at h
    · cases h
    split at h
    · cases h
      exact .emptyArray
    · obtain ⟨⟨items, _⟩, hread, rfl⟩ := eq_of_map h
      exact .array hread
  rw [if_neg ha] at h
  by_cases ho : c = '\x7b'
  · rw [if_pos ho] at h
    have hbrace : '\x7b' ∈ cs := ho ▸ mem_of_skipBlanks hskip
    split at h
    · cases h
    split at h
    · cases h
      exact .emptyObject hbrace
    · obtain ⟨⟨entries, _⟩, hread, rfl⟩ := eq_of_map h
      exact .object hbrace hread
  rw [if_neg ho] at h
  exact .number h

/-! ## Numbers -/

/-- An integer or a finite float. -/
inductive Number : Json → Prop where
  | integer (n : Int64) : Number (.integer n)
  | float {x : Float} (finite : (Binary64.finite? x).isSome = true) : Number (.float x)

theorem Number.finite {document : Json} (h : Number document) : document.Finite := by
  cases h with
  | integer n => exact .integer n
  | float finite => exact .float finite

theorem number_of_finite? {x : Float} {document : Json} (h : finite? x = some document) :
    Number document := by
  obtain ⟨exact, hfinite, rfl⟩ := Option.map_eq_some_iff.mp h
  exact .float (Option.isSome_iff_exists.mpr ⟨exact, hfinite⟩)

theorem number_of_numberOf {negative : Bool} {whole : List Char} {places : Option (List Char)}
    {exponent : Option Int} {document : Json}
    (h : numberOf negative whole places exponent = some document) : Number document := by
  simp only [numberOf] at h
  split at h
  · by_cases hzero : negative = true ∧ Binary64.digitsValue whole = 0
    · rw [if_pos hzero] at h
      cases h
      exact .float (by decide)
    · rw [if_neg hzero] at h
      split at h
      · cases h
        exact .integer _
      · exact number_of_finite? h
  · exact number_of_finite? h

theorem number_of_number? {cs rest : List Char} {document : Json}
    (h : number? cs = some (document, rest)) : Number document := by
  simp only [number?, Option.bind_eq_bind] at h
  -- Behind a sign or without one, the parts of a number are read alike.
  split at h <;>
  · split at h
    · cases h
    · obtain ⟨_, -, h⟩ := Option.bind_eq_some_iff.mp h
      obtain ⟨_, -, h⟩ := Option.bind_eq_some_iff.mp h
      obtain ⟨number, hnumber, heq⟩ := Option.bind_eq_some_iff.mp h
      cases heq
      exact number_of_numberOf hnumber

end Read

theorem document?_of_ofText? {text : String} {document : Json} (h : ofText? text = some document) :
    ∃ rest, Read.document? (2 * text.toList.length + 2) depthLimit text.toList =
      some (document, rest) := by
  simp only [ofText?] at h
  split at h
  · rename_i read rest hread
    split at h
    · cases h
      exact ⟨rest, hread⟩
    · cases h
  · cases h

/-- An object that is read is sorted, and its text has a brace. -/
theorem object_of_ofText? {text : String} {entries : List (String × Json)}
    (h : ofText? text = some (.object entries)) :
    Dict.Sorted entries ∧ '{' ∈ text.toList := by
  obtain ⟨rest, hread⟩ := document?_of_ofText? h
  generalize hform : Json.object entries = document at hread
  cases Read.form_of_document? hread with
  | emptyObject brace =>
    cases hform
    exact ⟨Dict.sorted_ofList [], brace⟩
  | object brace read =>
    cases hform
    exact ⟨Dict.sorted_ofList _, brace⟩
  | number read =>
    subst hform
    cases Read.number_of_number? read
  | _ => cases hform

end Json

end BindingLang
