import BindingLang.Expr.Names
import BindingLang.Proofs.Expr.Entries
import BindingLang.Proofs.Expr.Homomorphism
import BindingLang.Proofs.Expr.Tree
import BindingLang.Proofs.Expr.Words
import Mathlib.Data.List.Flatten
/-!
  The order of names: how the names that a tree reads lie among its words, and
  what the merging of repeated keys does to them.

  A parser takes the entries of a map from left to right, but a value whose key
  has come before is put in the place of the earlier value. `Expr.merged` does
  this to a tree whose maps still list all their entries: `{'a': x, 'b': y, 'a':
  z}`, as it is written, reads `x`, `y` and `z`, and merged it reads `z` and `y`.

  What is proved:
    1. `names_sublist_words` — the names that a tree reads are words of it, in
       the same order.
    2. `names_merged_subperm` — merging makes up no name, and lists none more
       often than it was; but it may change their order.
    3. `member_merged` — what stands after a dot is split alike before and after
       merging.
-/

namespace BindingLang

namespace Expr

theorem namesOfEntries_eq (entries : List (String × Expr)) :
    namesOfEntries entries = entries.flatMap fun entry => entry.2.names := by
  induction entries with
  | nil => rfl
  | cons entry entries ih =>
    obtain ⟨key, node⟩ := entry
    rw [namesOfEntries, ih, List.flatMap_cons]

theorem namesOfItems_sublist {items : List Expr}
    (h : ∀ item ∈ items, item.names.Sublist item.words) :
    (namesOfItems items).Sublist (wordsOfItems items) := by
  induction items with
  | nil => exact List.Sublist.refl _
  | cons item items ih =>
    obtain ⟨hitem, hitems⟩ := List.forall_mem_cons.mp h
    exact hitem.append (ih hitems)

theorem namesOfEntries_sublist {entries : List (String × Expr)}
    (h : ∀ entry ∈ entries, entry.2.names.Sublist entry.2.words) :
    (namesOfEntries entries).Sublist (wordsOfEntries entries) := by
  induction entries with
  | nil => exact List.Sublist.refl _
  | cons entry entries ih =>
    obtain ⟨hentry, hentries⟩ := List.forall_mem_cons.mp h
    exact (hentry.append (ih hentries)).cons entry.1

/-- A key that is a string literal is its only word. -/
theorem words_of_literalKey? {e : Expr} {key : String} (h : e.literalKey? = some key) :
    e.words = [key] := by
  cases e with
  | literal value =>
    cases value with
    | string s =>
      cases h
      rfl
    | _ => cases h
  | _ => cases h

/-- The names that a tree reads are words of it, in the same order. -/
theorem names_sublist_words (e : Expr) : e.names.Sublist e.words := by
  -- A member read on `this` is the last word of its node, and a key that is a
  -- string literal is the last of its index; `this` itself stands before them.
  induction e using induct with
  | empty => exact List.Sublist.refl _
  | literal value => exact List.nil_sublist _
  | id name => exact List.Sublist.refl _
  | unary operator child ih => exact ih
  | binary operator left right ihl ihr => exact ihl.append ihr
  | getter receiver name ih =>
    rw [names, words]
    split
    · exact List.sublist_append_right _ _
    · exact ih.trans (List.sublist_append_left _ _)
  | invoke receiver method arguments ihr iha =>
    have hitems := namesOfItems_sublist iha
    simp only [names, words]
    split
    · exact (List.sublist_append_right receiver.words [_]).append hitems
    · exact (ihr.trans (List.sublist_append_left _ _)).append hitems
  | index receiver argument ihr iha =>
    simp only [names, words]
    split
    · rename_i hkey
      rw [words_of_literalKey? hkey]
      exact List.sublist_append_right _ _
    · exact ihr.append iha
  | ternary condition whenTrue whenFalse ihc iht ihf => exact (ihc.append iht).append ihf
  | map entries ih => exact namesOfEntries_sublist ih
  | list items ih => exact namesOfItems_sublist ih

mutual

/-- The tree with the entries of each of its maps merged. -/
def merged : Expr → Expr
  | .empty => .empty
  | .literal value => .literal value
  | .id name => .id name
  | .unary operator child => .unary operator (merged child)
  | .binary operator left right => .binary operator (merged left) (merged right)
  | .getter receiver name => .getter (merged receiver) name
  | .invoke receiver method arguments =>
    .invoke (merged receiver) method (mergedItems arguments)
  | .index receiver argument => .index (merged receiver) (merged argument)
  | .ternary condition whenTrue whenFalse =>
    .ternary (merged condition) (merged whenTrue) (merged whenFalse)
  | .map entries => .map (Parser.mergeEntries (mergedEntries entries))
  | .list items => .list (mergedItems items)
termination_by structural e => e

def mergedItems : List Expr → List Expr
  | [] => []
  | item :: items => merged item :: mergedItems items
termination_by structural items => items

def mergedEntries : List (String × Expr) → List (String × Expr)
  | [] => []
  | (key, node) :: entries => (key, merged node) :: mergedEntries entries
termination_by structural entries => entries

end

example : merged (.map [("a", .id "x"), ("b", .id "y"), ("a", .id "z")]) =
    .map [("a", .id "z"), ("b", .id "y")] := rfl

theorem mergedItems_eq (items : List Expr) : mergedItems items = items.map merged := by
  induction items with
  | nil => rfl
  | cons item items ih => rw [mergedItems, ih, List.map_cons]

theorem isThis_merged (e : Expr) : e.merged.isThis = e.isThis := by
  cases e <;> rfl

theorem literalKey?_merged (e : Expr) : e.merged.literalKey? = e.literalKey? := by
  cases e <;> rfl

/-- The node after a dot is split alike before and after merging. -/
theorem member_merged (e : Expr) : e.merged.member = e.member.map (Member.map merged) := by
  cases e with
  | invoke receiver method arguments =>
    cases receiver with
    | id name =>
      rw [merged, mergedItems_eq]
      rfl
    | _ => rfl
  | _ => rfl

theorem namesOfItems_merged_subperm {items : List Expr}
    (h : ∀ item ∈ items, item.merged.names.Subperm item.names) :
    (namesOfItems (mergedItems items)).Subperm (namesOfItems items) := by
  induction items with
  | nil => exact List.Subperm.refl _
  | cons item items ih =>
    obtain ⟨hitem, hitems⟩ := List.forall_mem_cons.mp h
    exact hitem.append (ih hitems)

theorem namesOfEntries_merged_subperm {entries : List (String × Expr)}
    (h : ∀ entry ∈ entries, entry.2.merged.names.Subperm entry.2.names) :
    (namesOfEntries (mergedEntries entries)).Subperm (namesOfEntries entries) := by
  induction entries with
  | nil => exact List.Subperm.refl _
  | cons entry entries ih =>
    obtain ⟨hentry, hentries⟩ := List.forall_mem_cons.mp h
    exact hentry.append (ih hentries)

/-- Fewer entries, in whatever order, read fewer names. -/
theorem namesOfEntries_subperm {entries entries' : List (String × Expr)}
    (h : entries.Subperm entries') :
    (namesOfEntries entries).Subperm (namesOfEntries entries') := by
  obtain ⟨kept, hperm, hsub⟩ := h
  rw [namesOfEntries_eq, namesOfEntries_eq]
  exact ⟨_, hperm.flatMap_right _, hsub.flatMap _⟩

/-- Merging makes up no name, and lists none more often. -/
theorem names_merged_subperm (e : Expr) : e.merged.names.Subperm e.names := by
  induction e using induct with
  | empty | literal | id => exact List.Subperm.refl _
  | unary operator child ih => exact ih
  | binary operator left right ihl ihr => exact ihl.append ihr
  | getter receiver name ih =>
    simp only [merged, names, isThis_merged]
    split
    · exact List.Subperm.refl _
    · exact ih
  | invoke receiver method arguments ihr iha =>
    have hitems := namesOfItems_merged_subperm iha
    simp only [merged, names, isThis_merged]
    split
    · exact (List.subperm_cons _).mpr hitems
    · exact ihr.append hitems
  | index receiver argument ihr iha =>
    simp only [merged, names, isThis_merged, literalKey?_merged]
    split
    · exact List.Subperm.refl _
    · exact ihr.append iha
  | ternary condition whenTrue whenFalse ihc iht ihf => exact (ihc.append iht).append ihf
  | map entries ih =>
    -- Here alone names may be dropped or change places.
    have hkept := namesOfEntries_subperm (Parser.mergeEntries_subperm (mergedEntries entries))
    exact hkept.trans (namesOfEntries_merged_subperm ih)
  | list items ih => exact namesOfItems_merged_subperm ih

end Expr

end BindingLang
