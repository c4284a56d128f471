import BindingLang.Expr.Parser
import BindingLang.Proofs.Dict
import Mathlib.Data.List.Induction
import Mathlib.Data.List.Perm.Subperm
/-!
  The entries of a map: what is left of them when repeated keys are merged.

  Entries are merged from the first to the last, so what holds of the merged
  ones is proved by adding an entry at the end.

  What is proved:
    1. `mergeEntries_subperm` — merging makes up no entry and uses none twice.
    2. `mergeEntries_of_nodup` — where no key is repeated, it changes nothing.
    3. `nodup_mergeEntries` — no key is left twice.
    4. `mem_mergeEntries_iff`, `keys_mergeEntries` — the last entry of each key is left, and
       the keys stand in the order in which each came first.
    5. `ofList_mergeEntries` — a dictionary that is built comes to the same with the
       merged entries.
    6. `mergeEntries_map` — merging goes by the keys alone, whatever the nodes are.
-/

namespace BindingLang

namespace Parser

variable {M N : Type} {key : String} {node : N} {entries : List (String × N)}

theorem putEntry_of_not_mem (h : key ∉ entries.map Prod.fst) :
    putEntry key node entries = entries ++ [(key, node)] := by
  induction entries with
  | nil => rfl
  | cons entry entries ih =>
    simp only [List.map_cons, List.mem_cons, not_or] at h
    rw [putEntry, if_neg (Ne.symm h.1), ih h.2]
    rfl

/-- Merging a list goes on with its last entry. -/
theorem mergeEntries_concat (entry : String × N) :
    mergeEntries (entries ++ [entry]) = putEntry entry.1 entry.2 (mergeEntries entries) := by
  rw [mergeEntries, List.foldl_append]
  rfl

theorem putEntry_subperm : (putEntry key node entries).Subperm (entries ++ [(key, node)]) := by
  induction entries with
  | nil => exact List.Subperm.refl _
  | cons entry entries ih =>
    obtain ⟨other, old⟩ := entry
    rw [putEntry]
    split
    · have moved : ((key, node) :: entries).Subperm (entries ++ [(key, node)]) :=
        (List.perm_append_singleton _ _).symm.subperm
      exact moved.trans (List.sublist_cons_self _ _).subperm
    · exact (List.subperm_cons _).mpr ih

/-- Merging makes up no entry, and uses none twice. -/
theorem mergeEntries_subperm (entries : List (String × N)) :
    (mergeEntries entries).Subperm entries := by
  induction entries using List.reverseRecOn with
  | nil => exact List.Subperm.refl _
  | append_singleton entries entry ih =>
    rw [mergeEntries_concat]
    exact putEntry_subperm.trans ((List.subperm_append_right _).mpr ih)

/-- Entries with distinct keys are kept as they are. -/
theorem mergeEntries_of_nodup (h : (entries.map Prod.fst).Nodup) :
    mergeEntries entries = entries := by
  induction entries using List.reverseRecOn with
  | nil => rfl
  | append_singleton entries entry ih =>
    rw [List.map_append, List.nodup_append] at h
    obtain ⟨hnodup, -, hapart⟩ := h
    have hnew : entry.1 ∉ entries.map Prod.fst := fun hmem =>
      hapart _ hmem _ (List.mem_singleton_self _) rfl
    rw [mergeEntries_concat, ih hnodup, putEntry_of_not_mem hnew]

theorem nodup_putEntry (h : (entries.map Prod.fst).Nodup) :
    ((putEntry key node entries).map Prod.fst).Nodup := by
  induction entries with
  | nil => simp [putEntry]
  | cons entry entries ih =>
    obtain ⟨other, old⟩ := entry
    obtain ⟨hnew, hrest⟩ := List.nodup_cons.mp h
    rw [putEntry]
    split
    · rename_i heq
      subst heq
      exact List.nodup_cons.mpr ⟨hnew, hrest⟩
    · rename_i hne
      -- A key that comes in behind the first one is another.
      refine List.nodup_cons.mpr ⟨fun hmem => ?_, ih hrest⟩
      have hkeys := List.map_subset Prod.fst putEntry_subperm.subset hmem
      rw [List.map_append, List.mem_append] at hkeys
      obtain hold | hkey := hkeys
      · exact hnew hold
      · exact hne (List.mem_singleton.mp hkey)

/-- No key is left twice. -/
theorem nodup_mergeEntries (entries : List (String × N)) :
    ((mergeEntries entries).map Prod.fst).Nodup := by
  induction entries using List.reverseRecOn with
  | nil => exact List.nodup_nil
  | append_singleton entries entry ih =>
    rw [mergeEntries_concat]
    exact nodup_putEntry ih

/-! ## What is left, and where -/

/-- Binding a key leaves the other entries. -/
theorem mem_putEntry_iff (h : (entries.map Prod.fst).Nodup) {entry : String × N} :
    entry ∈ putEntry key node entries ↔
      entry = (key, node) ∨ (entry.1 ≠ key ∧ entry ∈ entries) := by
  induction entries with
  | nil => simp [putEntry]
  | cons first rest ih =>
    obtain ⟨other, old⟩ := first
    obtain ⟨hnew, hrest⟩ := List.nodup_cons.mp h
    rw [putEntry]
    split
    · rename_i hkey
      subst hkey
      exact Dict.mem_rebound_first rfl fun later hlater heq =>
        hnew (List.mem_map.mpr ⟨later, hlater, heq⟩)
    · rename_i hkey
      exact Dict.mem_rebound_rest hkey (ih hrest)

/-- Of the entries with one key the last one is left. -/
theorem mem_mergeEntries_iff {entries : List (String × N)} {entry : String × N} :
    entry ∈ mergeEntries entries ↔ Dict.IsLast entries entry := by
  induction entries using List.reverseRecOn with
  | nil => exact iff_of_false List.not_mem_nil (Dict.not_isLast_nil entry)
  | append_singleton entries last ih =>
    rw [mergeEntries_concat, mem_putEntry_iff (nodup_mergeEntries entries), Dict.isLast_concat, ih]

/-- A key that is there keeps its place, and a new one comes at the end. -/
theorem keys_putEntry (key : String) (node : N) (entries : List (String × N)) :
    (putEntry key node entries).map Prod.fst =
      if key ∈ entries.map Prod.fst then entries.map Prod.fst
      else entries.map Prod.fst ++ [key] := by
  induction entries with
  | nil => rfl
  | cons first rest ih =>
    obtain ⟨other, old⟩ := first
    rw [putEntry, List.map_cons]
    split
    · rename_i hkey
      rw [if_pos (hkey ▸ List.mem_cons_self), hkey, List.map_cons]
    · rename_i hkey
      have hmem : key ∈ other :: rest.map Prod.fst ↔ key ∈ rest.map Prod.fst :=
        List.mem_cons.trans (or_iff_right (Ne.symm hkey))
      rw [List.map_cons, ih]
      by_cases hin : key ∈ rest.map Prod.fst
      · rw [if_pos hin, if_pos (hmem.mpr hin)]
      · rw [if_neg hin, if_neg (mt hmem.mp hin), List.cons_append]

theorem eraseDups_concat (keys : List String) (key : String) :
    (keys ++ [key]).eraseDups =
      if key ∈ keys.eraseDups then keys.eraseDups else keys.eraseDups ++ [key] := by
  rw [List.eraseDups_append]
  by_cases hmem : key ∈ keys
  · have hnone : [key].removeAll keys = [] := by simp [List.removeAll, hmem]
    rw [if_pos (List.mem_eraseDups.mpr hmem), hnone, List.eraseDups_nil, List.append_nil]
  · have hkept : [key].removeAll keys = [key] := by simp [List.removeAll, hmem]
    rw [if_neg (mt List.mem_eraseDups.mp hmem), hkept]
    rfl

/-- The keys stand in the order in which each came first. -/
theorem keys_mergeEntries (entries : List (String × N)) :
    (mergeEntries entries).map Prod.fst = (entries.map Prod.fst).eraseDups := by
  induction entries using List.reverseRecOn with
  | nil => rfl
  | append_singleton entries last ih =>
    rw [mergeEntries_concat, keys_putEntry, ih, List.map_append, List.map_singleton,
      eraseDups_concat]

/-- A dictionary is built of the merged entries as of all of them. -/
theorem ofList_mergeEntries (entries : List (String × N)) :
    Dict.ofList (mergeEntries entries) = Dict.ofList entries := by
  refine Dict.eq_of_mem_iff (Dict.sorted_ofList _) (Dict.sorted_ofList _) fun entry => ?_
  rw [Dict.mem_ofList_iff, Dict.mem_ofList_iff, Dict.isLast_of_nodup (nodup_mergeEntries entries),
    mem_mergeEntries_iff]

variable {f : M → N}

/-- Rebinding a key respects a map between nodes. -/
theorem putEntry_map (key : String) (node : M) (entries : List (String × M)) :
    putEntry key (f node) (entries.map (Prod.map id f)) =
      (putEntry key node entries).map (Prod.map id f) := by
  induction entries with
  | nil => rfl
  | cons entry rest ih =>
    obtain ⟨other, old⟩ := entry
    simp only [putEntry, List.map_cons, Prod.map_apply, id_eq]
    split
    · rfl
    · rw [ih, List.map_cons]
      rfl

/-- The same keys are merged whatever nodes they are bound to. -/
theorem mergeEntries_map (entries : List (String × M)) :
    mergeEntries (entries.map (Prod.map id f)) = (mergeEntries entries).map (Prod.map id f) := by
  induction entries using List.reverseRecOn with
  | nil => rfl
  | append_singleton entries entry ih =>
    rw [List.map_append, List.map_singleton, mergeEntries_concat, ih, mergeEntries_concat]
    exact putEntry_map entry.1 entry.2 (mergeEntries entries)

end Parser

end BindingLang
