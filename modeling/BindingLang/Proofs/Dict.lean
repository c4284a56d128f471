import BindingLang.Dict
import Mathlib.Data.List.Induction
/-!
  Dictionaries that are built entry by entry.

  Both `ofList` and `overlay` bind one entry after another, so they hold no
  entries but those they are given, and `ofList` holds them in the order of their
  keys. Entries that are in this order already are each bound at the end.

  What is proved:
    1. `mem_overlay`, `mem_ofList`, `mem_of_get?`, `get?_eq_none` — where entries come
       from.
    2. `sorted_ofList` — a dictionary that is built is sorted.
    3. `ofList_of_sorted` — building one of sorted entries changes nothing.
    4. `perm_ofList` — building one of entries with distinct keys puts them in
       order, and changes nothing else.
    5. `eq_of_perm_of_keys`, `eq_of_perm` — entries with distinct keys are known by
       the order of the keys.
    6. `get?_overlay` — of two dictionaries, one bound on top of the other, the
       nearer one answers first.
    7. `get?_map`, `overlay_map` — it makes no difference whether values are
       changed before or after.
    8. `mem_ofList_iff` — a dictionary that is built holds the last entry of each key.
    9. `eq_of_mem_iff` — dictionaries with the same entries are the same.
-/

namespace BindingLang

namespace Dict

variable {α β : Type}

/-- A dictionary with others bound on top of it has no further entries. -/
theorem mem_overlay {base nearer : Dict α} {entry : String × α}
    (h : entry ∈ Dict.overlay base nearer) : entry ∈ base ∨ entry ∈ nearer := by
  induction nearer generalizing base with
  | nil => exact Or.inl h
  | cons first rest ih =>
    obtain hbase | hrest := ih h
    · obtain hfirst | hbase := mem_insert hbase
      · exact Or.inr (hfirst ▸ List.mem_cons_self)
      · exact Or.inl hbase
    · exact Or.inr (List.mem_cons_of_mem _ hrest)

theorem ofList_eq_overlay (entries : List (String × α)) :
    Dict.ofList entries = Dict.overlay [] entries := rfl

theorem mem_ofList {entries : List (String × α)} {entry : String × α}
    (h : entry ∈ Dict.ofList entries) : entry ∈ entries := by
  rw [ofList_eq_overlay] at h
  exact (mem_overlay h).resolve_left List.not_mem_nil

theorem mem_of_get? {d : Dict α} {name : String} {value : α} (h : d.get? name = some value) :
    (name, value) ∈ d := by
  induction d with
  | nil => cases h
  | cons first rest ih =>
    obtain ⟨key, old⟩ := first
    rw [get?] at h
    split at h
    · rename_i hkey
      cases h
      exact hkey ▸ List.mem_cons_self
    · exact List.mem_cons_of_mem _ (ih h)

theorem get?_eq_none {d : Dict α} {name : String} (h : ∀ entry ∈ d, entry.1 ≠ name) :
    d.get? name = none := by
  induction d with
  | nil => rfl
  | cons first rest ih =>
    obtain ⟨key, value⟩ := first
    rw [get?, if_neg (h (key, value) List.mem_cons_self)]
    exact ih fun entry hentry => h entry (List.mem_cons_of_mem _ hentry)

theorem sorted_overlay {base : Dict α} (h : base.Sorted) (nearer : Dict α) :
    (Dict.overlay base nearer).Sorted := by
  induction nearer generalizing base with
  | nil => exact h
  | cons entry rest ih => exact ih (sorted_insert h entry.1 entry.2)

theorem sorted_ofList (entries : List (String × α)) : (Dict.ofList entries).Sorted :=
  sorted_overlay List.Pairwise.nil entries

/-- A key that is greater than all others is bound at the end. -/
theorem insert_of_greater {d : Dict α} {name : String} (value : α)
    (h : ∀ entry ∈ d, entry.1 < name) : d.insert name value = d ++ [(name, value)] := by
  induction d with
  | nil => rfl
  | cons first rest ih =>
    obtain ⟨key, old⟩ := first
    have hlt : key < name := h (key, old) List.mem_cons_self
    have hne : key ≠ name := fun heq => String.lt_irrefl name (heq ▸ hlt)
    have hnot : ¬ name < key := fun hgt => String.lt_irrefl name (String.lt_trans hgt hlt)
    rw [insert, if_neg hne, if_neg hnot, ih fun entry he => h entry (List.mem_cons_of_mem _ he)]
    rfl

/-- Entries in order, all greater than those there are, are put at the end. -/
theorem overlay_of_sorted {base nearer : Dict α} (h : (base ++ nearer).Sorted) :
    Dict.overlay base nearer = base ++ nearer := by
  induction nearer generalizing base with
  | nil => exact (List.append_nil base).symm
  | cons entry rest ih =>
    have hgreater : ∀ other ∈ base, other.1 < entry.1 := fun other ho =>
      (List.pairwise_append.mp h).2.2 other ho entry List.mem_cons_self
    have hinsert : base.insert entry.1 entry.2 = base ++ [entry] :=
      insert_of_greater entry.2 hgreater
    calc Dict.overlay base (entry :: rest)
        = Dict.overlay (base.insert entry.1 entry.2) rest := rfl
      _ = Dict.overlay (base ++ [entry]) rest := by rw [hinsert]
      _ = base ++ [entry] ++ rest := ih (by rwa [List.append_assoc])
      _ = base ++ entry :: rest := List.append_assoc base [entry] rest

theorem ofList_of_sorted {d : Dict α} (h : d.Sorted) : Dict.ofList d = d := by
  have h : Sorted ([] ++ d) := h
  exact overlay_of_sorted h

/-- An entry with a key of its own is put in somewhere. -/
theorem perm_insert {d : Dict α} {name : String} (value : α) (h : name ∉ d.map Prod.fst) :
    (d.insert name value).Perm ((name, value) :: d) := by
  induction d with
  | nil => exact List.Perm.refl _
  | cons first rest ih =>
    obtain ⟨key, old⟩ := first
    simp only [List.map_cons, List.mem_cons, not_or] at h
    rw [insert, if_neg (Ne.symm h.1)]
    split
    · exact List.Perm.refl _
    · exact ((ih h.2).cons _).trans (List.Perm.swap _ _ _)

theorem perm_overlay {base nearer : Dict α} (h : ((nearer ++ base).map Prod.fst).Nodup) :
    (Dict.overlay base nearer).Perm (nearer ++ base) := by
  induction nearer generalizing base with
  | nil => exact List.Perm.refl _
  | cons entry rest ih =>
    obtain ⟨key, value⟩ := entry
    have hnew : key ∉ (rest ++ base).map Prod.fst := (List.nodup_cons.mp h).1
    rw [List.map_append, List.mem_append, not_or] at hnew
    have hinsert : (base.insert key value).Perm ((key, value) :: base) :=
      perm_insert value hnew.2
    -- The entry goes in front of the base instead of the rest.
    have hmoved : (rest ++ base.insert key value).Perm ((key, value) :: (rest ++ base)) :=
      (hinsert.append_left rest).trans List.perm_middle
    exact (ih ((hmoved.map Prod.fst).nodup_iff.mpr h)).trans hmoved

theorem perm_ofList {entries : List (String × α)} (h : (entries.map Prod.fst).Nodup) :
    (Dict.ofList entries).Perm entries := by
  have hperm : (Dict.overlay [] entries).Perm (entries ++ []) :=
    perm_overlay (by rwa [List.append_nil])
  rwa [List.append_nil] at hperm

/-- Entries with distinct keys are known by the order of their keys. -/
theorem eq_of_perm_of_keys {entries others : List (String × α)}
    (hperm : entries.Perm others) (hkeys : entries.map Prod.fst = others.map Prod.fst)
    (hnodup : (others.map Prod.fst).Nodup) : entries = others := by
  induction others generalizing entries with
  | nil => exact hperm.eq_nil
  | cons other others ih =>
    cases entries with
    | nil => cases hkeys
    | cons entry entries =>
      obtain ⟨hkey, hrest⟩ := List.cons.inj hkeys
      obtain ⟨hnew, hdistinct⟩ := List.nodup_cons.mp hnodup
      -- The first entry is the other one with its key.
      have hfirst : entry = other := by
        refine (List.mem_cons.mp (hperm.subset List.mem_cons_self)).resolve_right fun hmem => ?_
        exact hnew (hkey ▸ List.mem_map_of_mem hmem)
      subst hfirst
      rw [ih hperm.cons_inv hrest hdistinct]

theorem sorted_iff {d : Dict α} :
    d.Sorted ↔ (d.map Prod.fst).Pairwise (· < ·) := by
  rw [Sorted, List.pairwise_map]

/-- A dictionary is known by its entries: in order they stand one way only. -/
theorem eq_of_perm {d d' : Dict α} (h : d.Perm d') (hd : d.Sorted) (hd' : d'.Sorted) :
    d = d' :=
  h.eq_of_pairwise (fun _ _ _ _ hlt hgt => absurd (String.lt_trans hlt hgt) (String.lt_irrefl _))
    hd hd'

/-! ## Lookups -/

theorem mem_names_iff {d : Dict α} {name : String} :
    name ∈ d.names ↔ ∃ value, d.get? name = some value := by
  induction d with
  | nil => simp [names]
  | cons first rest ih =>
    obtain ⟨key, value⟩ := first
    by_cases hkey : key = name
    · simp [names, get?, hkey]
    · simpa [names, get?, hkey, Ne.symm hkey] using ih

/-- What is bound on top of a dictionary answers first. -/
theorem get?_overlay {nearer : Dict α} (h : nearer.Sorted) (base : Dict α) (name : String) :
    (Dict.overlay base nearer).get? name = (nearer.get? name).or (base.get? name) := by
  induction nearer generalizing base with
  | nil => rfl
  | cons entry rest ih =>
    obtain ⟨key, value⟩ := entry
    obtain ⟨hgreater, hrest⟩ := List.pairwise_cons.mp h
    have hfirst : (Dict.overlay base ((key, value) :: rest)).get? name =
        (get? rest name).or ((base.insert key value).get? name) := ih hrest _
    rw [hfirst]
    by_cases hkey : key = name
    · subst hkey
      -- Nothing binds the key again.
      have hnone : get? rest key = none := get?_eq_none fun entry he heq =>
        String.lt_irrefl key (heq ▸ hgreater entry he)
      simp [hnone, get?_insert_self, get?]
    · rw [get?_insert_other base value hkey]
      simp [get?, hkey]

theorem mem_names_overlay_iff {nearer : Dict α} (h : nearer.Sorted) {base : Dict α}
    {name : String} : name ∈ names (Dict.overlay base nearer) ↔
      name ∈ nearer.names ∨ name ∈ base.names := by
  simp only [mem_names_iff, get?_overlay h]
  cases nearer.get? name <;> simp

variable (f : α → β)

theorem names_map (d : Dict α) : names (d.map fun entry => (entry.1, f entry.2)) = d.names := by
  simp [names]

theorem sorted_map {d : Dict α} (h : d.Sorted) :
    Sorted (d.map fun entry => (entry.1, f entry.2)) :=
  List.pairwise_map.mpr h

theorem get?_map (d : Dict α) (name : String) :
    get? (d.map fun entry => (entry.1, f entry.2)) name = (d.get? name).map f := by
  induction d with
  | nil => rfl
  | cons first rest ih =>
    by_cases hkey : first.1 = name
    · simp [get?, hkey]
    · simpa [get?, hkey] using ih

theorem insert_map (d : Dict α) (name : String) (value : α) :
    Dict.insert (d.map fun entry => (entry.1, f entry.2)) name (f value) =
      (d.insert name value).map fun entry => (entry.1, f entry.2) := by
  induction d with
  | nil => rfl
  | cons first rest ih =>
    simp only [List.map_cons, insert, ih]
    split
    · rfl
    · split <;> rfl

theorem overlay_map (base nearer : Dict α) :
    Dict.overlay (base.map fun entry => (entry.1, f entry.2))
        (nearer.map fun entry => (entry.1, f entry.2)) =
      (Dict.overlay base nearer).map fun entry => (entry.1, f entry.2) := by
  induction nearer generalizing base with
  | nil => rfl
  | cons entry rest ih =>
    have hfirst := ih (base.insert entry.1 entry.2)
    rw [← insert_map] at hfirst
    exact hfirst

/-! ## The last entry of each key -/

/-- Whether the entry is the last one of its key. -/
def IsLast (entries : List (String × α)) (entry : String × α) : Prop :=
  ∃ front rest, entries = front ++ entry :: rest ∧ entry.1 ∉ rest.map Prod.fst

theorem not_isLast_nil (entry : String × α) : ¬ IsLast [] entry := by
  rintro ⟨front, rest, heq, -⟩
  exact absurd (congrArg List.length heq) (by simp)

/-- An entry at the end is the last one of its key; those of other keys stay the last. -/
theorem isLast_concat {entries : List (String × α)} {last entry : String × α} :
    IsLast (entries ++ [last]) entry ↔
      entry = last ∨ (entry.1 ≠ last.1 ∧ IsLast entries entry) := by
  constructor
  · rintro ⟨front, rest, heq, hno⟩
    cases rest using List.reverseRecOn with
    | nil =>
      obtain ⟨-, hentry⟩ := List.append_inj' heq rfl
      exact Or.inl (List.singleton_inj.mp hentry).symm
    | append_singleton rest other =>
      have heq' : entries ++ [last] = (front ++ entry :: rest) ++ [other] := by
        rw [heq, List.append_assoc, List.cons_append]
      obtain ⟨rfl, hother⟩ := List.append_inj' heq' rfl
      obtain rfl := List.singleton_inj.mp hother
      rw [List.map_append, List.mem_append, not_or] at hno
      exact Or.inr ⟨fun hkey => hno.2 (List.mem_singleton.mpr hkey), front, rest, rfl, hno.1⟩
  · rintro (rfl | ⟨hne, front, rest, rfl, hno⟩)
    · exact ⟨entries, [], rfl, List.not_mem_nil⟩
    · refine ⟨front, rest ++ [last], by rw [List.append_assoc, List.cons_append], ?_⟩
      rw [List.map_append, List.mem_append, not_or]
      exact ⟨hno, fun hkey => hne (List.mem_singleton.mp hkey)⟩

section Rebinding

variable {name : String} {value : α} {entry first : String × α} {rest rebound : List (String × α)}

/-- A first entry of the name that is bound gives way to the new one, if it is the only one. -/
theorem mem_rebound_first (hfirst : first.1 = name) (hrest : ∀ other ∈ rest, other.1 ≠ name) :
    entry ∈ (name, value) :: rest ↔
      entry = (name, value) ∨ (entry.1 ≠ name ∧ entry ∈ first :: rest) := by
  simp only [List.mem_cons]
  constructor
  · rintro (hentry | hentry)
    · exact Or.inl hentry
    · exact Or.inr ⟨hrest entry hentry, Or.inr hentry⟩
  · rintro (hentry | ⟨hne, rfl | hentry⟩)
    · exact Or.inl hentry
    · exact absurd hfirst hne
    · exact Or.inr hentry

/-- A first entry of another name is kept, and the name is bound behind it. -/
theorem mem_rebound_rest (hfirst : first.1 ≠ name)
    (h : entry ∈ rebound ↔ entry = (name, value) ∨ (entry.1 ≠ name ∧ entry ∈ rest)) :
    entry ∈ first :: rebound ↔
      entry = (name, value) ∨ (entry.1 ≠ name ∧ entry ∈ first :: rest) := by
  simp only [List.mem_cons, h]
  constructor
  · rintro (rfl | hentry | ⟨hne, hentry⟩)
    · exact Or.inr ⟨hfirst, Or.inl rfl⟩
    · exact Or.inl hentry
    · exact Or.inr ⟨hne, Or.inr hentry⟩
  · rintro (hentry | ⟨hne, hentry | hentry⟩)
    · exact Or.inr (Or.inl hentry)
    · exact Or.inl hentry
    · exact Or.inr (Or.inr ⟨hne, hentry⟩)

end Rebinding

theorem mem_insert_iff {d : Dict α} (h : d.Sorted) {name : String} {value : α}
    {entry : String × α} :
    entry ∈ d.insert name value ↔ entry = (name, value) ∨ (entry.1 ≠ name ∧ entry ∈ d) := by
  induction d with
  | nil => simp [insert]
  | cons first rest ih =>
    obtain ⟨key, old⟩ := first
    obtain ⟨hgreater, hrest⟩ := List.pairwise_cons.mp h
    have hlater : ∀ other ∈ rest, other.1 ≠ key := fun other ho heq =>
      String.lt_irrefl key (heq ▸ hgreater other ho)
    rw [insert]
    split
    · rename_i hkey
      subst hkey
      exact mem_rebound_first rfl hlater
    · rename_i hkey
      split
      · rename_i hlt
        rw [List.mem_cons]
        refine or_congr_right ⟨fun hentry => ⟨?_, hentry⟩, And.right⟩
        -- All keys of the dictionary are greater.
        have hfirst : ∀ other ∈ (key, old) :: rest, name < other.1 := by
          rintro other (_ | ⟨_, hother⟩)
          · exact hlt
          · exact String.lt_trans hlt (hgreater other hother)
        exact fun heq => String.lt_irrefl name (heq ▸ hfirst entry hentry)
      · exact mem_rebound_rest hkey (ih hrest)

/-- A dictionary that is built holds the last entry of each key. -/
theorem mem_ofList_iff {entries : List (String × α)} {entry : String × α} :
    entry ∈ Dict.ofList entries ↔ IsLast entries entry := by
  induction entries using List.reverseRecOn with
  | nil => exact iff_of_false List.not_mem_nil (not_isLast_nil entry)
  | append_singleton entries last ih =>
    have hinsert : Dict.ofList (entries ++ [last]) =
        (Dict.ofList entries).insert last.1 last.2 := by
      rw [Dict.ofList, List.foldl_append]
      rfl
    rw [hinsert, mem_insert_iff (sorted_ofList entries), isLast_concat, ih]

/-- Where no key is repeated every entry is the last one. -/
theorem isLast_of_nodup {entries : List (String × α)} (h : (entries.map Prod.fst).Nodup)
    {entry : String × α} : IsLast entries entry ↔ entry ∈ entries := by
  constructor
  · rintro ⟨front, rest, rfl, -⟩
    exact List.mem_append_right _ List.mem_cons_self
  · intro hentry
    obtain ⟨front, rest, rfl⟩ := List.append_of_mem hentry
    refine ⟨front, rest, rfl, ?_⟩
    rw [List.map_append, List.map_cons] at h
    exact (List.nodup_cons.mp (List.nodup_append.mp h).2.1).1

theorem nodup_of_sorted {d : Dict α} (h : d.Sorted) : d.Nodup := by
  refine List.Pairwise.imp ?_ h
  rintro entry _ hlt rfl
  exact String.lt_irrefl _ hlt

/-- Dictionaries with the same entries are the same. -/
theorem eq_of_mem_iff {d d' : Dict α} (hd : d.Sorted) (hd' : d'.Sorted)
    (h : ∀ entry, entry ∈ d ↔ entry ∈ d') : d = d' := by
  have hperm : d.Perm d' :=
    (List.perm_ext_iff_of_nodup (nodup_of_sorted hd) (nodup_of_sorted hd')).mpr h
  exact eq_of_perm hperm hd hd'

end Dict

end BindingLang
