/-!
  Dictionaries: finite maps from text to values, as association lists.

  A dictionary built with `insert` keeps its entries in strictly increasing
  key order (`Sorted`), so two dictionaries that hold the same entries are the
  same list, whatever order the entries came in. Lookup reads the first entry
  of a key, and so also makes sense of a list that was not built that way.

  What is proved:
    1. `get?_insert_self`, `get?_insert_other` — an insertion answers its own
       key and leaves every other key as it was.
    2. `sorted_insert` — insertion keeps the order of the keys.
-/

namespace BindingLang

/-- A finite map from text to `α`, as its list of entries. -/
abbrev Dict (α : Type) := List (String × α)

namespace Dict

variable {α : Type}

/-- The value of the first entry named `name`. -/
def get? : Dict α → String → Option α
  | [], _ => none
  | (key, value) :: rest, name => if key = name then some value else get? rest name

/-- Whether some entry is named `name`. -/
def contains (d : Dict α) (name : String) : Bool := (d.get? name).isSome

/-- Binds `name` to `value`, in place of the entry it had, or else before the
first entry with a greater key. -/
def insert : Dict α → String → α → Dict α
  | [], name, value => [(name, value)]
  | (key, old) :: rest, name, value =>
    if key = name then (name, value) :: rest
    else if name < key then (name, value) :: (key, old) :: rest
    else (key, old) :: insert rest name value

/-- The names of the entries, in their order. -/
def names (d : Dict α) : List String := d.map Prod.fst

/-- The dictionary of a list of entries: of two entries with one name the
later one holds. -/
def ofList (entries : List (String × α)) : Dict α :=
  entries.foldl (fun d entry => d.insert entry.1 entry.2) []

/-- `base` with every entry of `nearer` bound on top of it. -/
def overlay (base nearer : Dict α) : Dict α :=
  nearer.foldl (fun d entry => d.insert entry.1 entry.2) base

/-- Keys strictly increase. -/
def Sorted (d : Dict α) : Prop := d.Pairwise (fun a b => a.1 < b.1)

@[simp] theorem get?_nil (name : String) : get? ([] : Dict α) name = none := rfl

theorem get?_insert_self (d : Dict α) (name : String) (value : α) :
    (d.insert name value).get? name = some value := by
  induction d with
  | nil => simp [insert, get?]
  | cons entry rest ih =>
    obtain ⟨key, old⟩ := entry
    by_cases hk : key = name
    · simp [insert, get?, hk]
    · by_cases hlt : name < key <;> simp [insert, get?, hk, hlt, ih]

theorem get?_insert_other (d : Dict α) {name other : String} (value : α)
    (hne : name ≠ other) : (d.insert name value).get? other = d.get? other := by
  induction d with
  | nil => simp [insert, get?, hne]
  | cons entry rest ih =>
    obtain ⟨key, old⟩ := entry
    by_cases hk : key = name
    · subst hk; simp [insert, get?, hne]
    · by_cases hlt : name < key <;> simp [insert, get?, hk, hlt, hne, ih]

/-- An insertion adds its own name and no other. -/
theorem mem_insert {d : Dict α} {name : String} {value : α} {entry : String × α}
    (h : entry ∈ d.insert name value) : entry = (name, value) ∨ entry ∈ d := by
  induction d with
  | nil => simp [insert] at h; exact Or.inl h
  | cons first rest ih =>
    obtain ⟨key, old⟩ := first
    simp only [insert] at h
    split at h
    · rcases List.mem_cons.mp h with h | h
      · exact Or.inl h
      · exact Or.inr (List.mem_cons_of_mem _ h)
    · split at h
      · rcases List.mem_cons.mp h with h | h
        · exact Or.inl h
        · exact Or.inr h
      · rcases List.mem_cons.mp h with h | h
        · exact Or.inr (by simp [h])
        · rcases ih h with h | h
          · exact Or.inl h
          · exact Or.inr (List.mem_cons_of_mem _ h)

theorem sorted_insert {d : Dict α} (h : d.Sorted) (name : String) (value : α) :
    (d.insert name value).Sorted := by
  induction d with
  | nil => simp [insert, Sorted]
  | cons first rest ih =>
    obtain ⟨key, old⟩ := first
    obtain ⟨hfirst, hrest⟩ := List.pairwise_cons.mp h
    simp only [insert]
    split
    · rename_i hk
      subst hk
      exact List.pairwise_cons.mpr ⟨hfirst, hrest⟩
    · split
      · rename_i hlt
        refine List.pairwise_cons.mpr ⟨fun entry he => ?_, h⟩
        rcases List.mem_cons.mp he with rfl | he
        · exact hlt
        · exact String.lt_trans hlt (hfirst entry he)
      · rename_i hne hlt
        refine List.pairwise_cons.mpr ⟨fun entry he => ?_, ih hrest⟩
        rcases mem_insert he with rfl | he
        · exact Decidable.byContradiction fun hge =>
            hne (String.le_antisymm (String.not_lt.mp hlt) (String.not_lt.mp hge))
        · exact hfirst entry he

end Dict

end BindingLang
