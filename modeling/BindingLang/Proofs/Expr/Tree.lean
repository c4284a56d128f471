import BindingLang.Expr.Basic
/-!
  Trees as such: induction over them, and the list of their nodes.

  A condition on all nodes of a tree is a condition on the members of
  `Expr.nodes`. A node list starts with the tree itself, and the rest of it are
  the lists of the children, from left to right.

  What is proved:
    1. `induct` — induction over trees, with one hypothesis for all arguments of
       a call, all entries of a map and all items of a list.
    2. `mem_nodes_self`, `mem_nodesOfItems`, `mem_nodesOfEntries` — a tree is a
       node of itself, and the nodes of a list of trees are those of its
       members.
    3. `every_unary` and its like — all nodes of a tree have a property if the
       tree itself has it and all nodes of its children do.
-/

namespace BindingLang

namespace Expr

mutual

/-- The nodes of a tree, each before its children. -/
def nodes : Expr → List Expr
  | .empty => [.empty]
  | .literal value => [.literal value]
  | .id name => [.id name]
  | .unary operator child => .unary operator child :: nodes child
  | .binary operator left right => .binary operator left right :: (nodes left ++ nodes right)
  | .getter receiver name => .getter receiver name :: nodes receiver
  | .invoke receiver method arguments =>
    .invoke receiver method arguments :: (nodes receiver ++ nodesOfItems arguments)
  | .index receiver argument => .index receiver argument :: (nodes receiver ++ nodes argument)
  | .ternary condition whenTrue whenFalse =>
    .ternary condition whenTrue whenFalse ::
      (nodes condition ++ (nodes whenTrue ++ nodes whenFalse))
  | .map entries => .map entries :: nodesOfEntries entries
  | .list items => .list items :: nodesOfItems items
termination_by structural e => e

def nodesOfItems : List Expr → List Expr
  | [] => []
  | item :: items => nodes item ++ nodesOfItems items
termination_by structural items => items

def nodesOfEntries : List (String × Expr) → List Expr
  | [] => []
  | (_, node) :: entries => nodes node ++ nodesOfEntries entries
termination_by structural entries => entries

end

/-- Induction over trees. -/
@[elab_as_elim]
theorem induct {motive : Expr → Prop}
    (empty : motive .empty)
    (literal : ∀ value, motive (.literal value))
    (id : ∀ name, motive (.id name))
    (unary : ∀ operator child, motive child → motive (.unary operator child))
    (binary : ∀ operator left right, motive left → motive right →
      motive (.binary operator left right))
    (getter : ∀ receiver name, motive receiver → motive (.getter receiver name))
    (invoke : ∀ receiver method arguments, motive receiver → (∀ item ∈ arguments, motive item) →
      motive (.invoke receiver method arguments))
    (index : ∀ receiver argument, motive receiver → motive argument →
      motive (.index receiver argument))
    (ternary : ∀ condition whenTrue whenFalse, motive condition → motive whenTrue →
      motive whenFalse → motive (.ternary condition whenTrue whenFalse))
    (map : ∀ entries, (∀ entry ∈ entries, motive entry.2) → motive (.map entries))
    (list : ∀ items, (∀ item ∈ items, motive item) → motive (.list items))
    (e : Expr) : motive e :=
  @Expr.rec motive (fun items => ∀ item ∈ items, motive item)
    (fun entries => ∀ entry ∈ entries, motive entry.2) (fun entry => motive entry.2)
    empty literal id unary binary getter invoke index ternary map list
    (fun _ h => absurd h List.not_mem_nil)
    (fun _ _ first rest item h => (List.mem_cons.mp h).elim (fun e => e ▸ first) (rest item))
    (fun _ h => absurd h List.not_mem_nil)
    (fun _ _ first rest entry h => (List.mem_cons.mp h).elim (fun e => e ▸ first) (rest entry))
    (fun _ _ h => h) e

theorem mem_nodes_self (e : Expr) : e ∈ e.nodes := by
  cases e <;> simp [nodes]

theorem mem_nodesOfItems {n : Expr} {items : List Expr} :
    n ∈ nodesOfItems items ↔ ∃ item ∈ items, n ∈ item.nodes := by
  induction items with
  | nil => simp [nodesOfItems]
  | cons item items ih => simp [nodesOfItems, ih]

theorem mem_nodesOfEntries {n : Expr} {entries : List (String × Expr)} :
    n ∈ nodesOfEntries entries ↔ ∃ entry ∈ entries, n ∈ entry.2.nodes := by
  induction entries with
  | nil => simp [nodesOfEntries]
  | cons entry entries ih => simp [nodesOfEntries, ih]

/-- Whether all nodes of the tree have the property. -/
def Every (p : Expr → Prop) (e : Expr) : Prop := ∀ node ∈ e.nodes, p node

section Every

variable {p : Expr → Prop} {e left right receiver argument condition whenTrue whenFalse : Expr}
  {items : List Expr} {entries : List (String × Expr)} {name operator : String}

theorem Every.self (h : e.Every p) : p e := h e (mem_nodes_self e)

theorem forall_nodesOfItems :
    (∀ node ∈ nodesOfItems items, p node) ↔ ∀ item ∈ items, item.Every p := by
  simp only [mem_nodesOfItems]
  exact ⟨fun h item hi node hn => h node ⟨item, hi, hn⟩,
    fun h node ⟨item, hi, hn⟩ => h item hi node hn⟩

theorem forall_nodesOfEntries :
    (∀ node ∈ nodesOfEntries entries, p node) ↔ ∀ entry ∈ entries, entry.2.Every p := by
  simp only [mem_nodesOfEntries]
  exact ⟨fun h entry he node hn => h node ⟨entry, he, hn⟩,
    fun h node ⟨entry, he, hn⟩ => h entry he node hn⟩

@[simp] theorem every_empty : empty.Every p ↔ p .empty := List.forall_mem_singleton

@[simp] theorem every_literal {value : Literal} :
    (literal value).Every p ↔ p (.literal value) := List.forall_mem_singleton

@[simp] theorem every_id : (id name).Every p ↔ p (.id name) := List.forall_mem_singleton

@[simp] theorem every_unary : (unary operator e).Every p ↔ p (.unary operator e) ∧ e.Every p :=
  List.forall_mem_cons

@[simp] theorem every_binary : (binary operator left right).Every p ↔
    p (.binary operator left right) ∧ left.Every p ∧ right.Every p :=
  List.forall_mem_cons.trans (and_congr_right fun _ => List.forall_mem_append)

@[simp] theorem every_getter :
    (getter receiver name).Every p ↔ p (.getter receiver name) ∧ receiver.Every p :=
  List.forall_mem_cons

@[simp] theorem every_invoke {method : Option String} :
    (invoke receiver method items).Every p ↔
      p (.invoke receiver method items) ∧ receiver.Every p ∧ ∀ item ∈ items, item.Every p :=
  List.forall_mem_cons.trans (and_congr_right fun _ =>
    List.forall_mem_append.trans (and_congr_right fun _ => forall_nodesOfItems))

@[simp] theorem every_index : (index receiver argument).Every p ↔
    p (.index receiver argument) ∧ receiver.Every p ∧ argument.Every p :=
  List.forall_mem_cons.trans (and_congr_right fun _ => List.forall_mem_append)

@[simp] theorem every_ternary : (ternary condition whenTrue whenFalse).Every p ↔
    p (.ternary condition whenTrue whenFalse) ∧
      condition.Every p ∧ whenTrue.Every p ∧ whenFalse.Every p :=
  List.forall_mem_cons.trans (and_congr_right fun _ =>
    List.forall_mem_append.trans (and_congr_right fun _ => List.forall_mem_append))

@[simp] theorem every_map : (map entries).Every p ↔
    p (.map entries) ∧ ∀ entry ∈ entries, entry.2.Every p :=
  List.forall_mem_cons.trans (and_congr_right fun _ => forall_nodesOfEntries)

@[simp] theorem every_list : (list items).Every p ↔
    p (.list items) ∧ ∀ item ∈ items, item.Every p :=
  List.forall_mem_cons.trans (and_congr_right fun _ => forall_nodesOfItems)

end Every

end Expr

end BindingLang
