import BindingLang.Expr.Basic
import BindingLang.Symbol
/-!
  Groupings: the ways to put a chain of operators into a tree.

  A chain is a first operand and joints, each an operator with the operand behind
  it. A grouping is a binary tree over the operands; read from left to right it
  gives back the chain. It is well grouped if every operator binds no tighter
  than the operator of its left part, and less tight than that of its right
  part, so that operators of one precedence group to the left.

  What is proved:
    1. `precedence_le_of_mem_rest` — the root of a well grouped tree binds
       least.
    2. `eq_of_wellGrouped` — a chain has one well grouped tree at most.
-/

namespace BindingLang

/-- A tree of operators over operands. -/
inductive Grouping where
  | operand (e : Expr)
  | group (left : Grouping) (operator : String) (right : Grouping)

namespace Grouping

/-- The expression that the tree stands for. -/
def toExpr : Grouping → Expr
  | .operand e => e
  | .group left operator right => .binary operator left.toExpr right.toExpr

/-- The operator at the root. -/
def root? : Grouping → Option String
  | .operand _ => none
  | .group _ operator _ => some operator

/-- The leftmost operand. -/
def first : Grouping → Expr
  | .operand e => e
  | .group left _ _ => left.first

/-- The operators from left to right, each with the operand behind it. -/
def rest : Grouping → List (String × Expr)
  | .operand _ => []
  | .group left operator right => left.rest ++ (operator, right.first) :: right.rest

/-- Whether every operator binds no tighter than the one of its left part, and
less tight than the one of its right part. -/
def WellGrouped : Grouping → Prop
  | .operand _ => True
  | .group left operator right => left.WellGrouped ∧ right.WellGrouped ∧
      (∀ o ∈ left.root?, Symbol.precedence operator ≤ Symbol.precedence o) ∧
      ∀ o ∈ right.root?, Symbol.precedence operator < Symbol.precedence o

/-- No operator of a well grouped tree binds less tight than the one at its
root. -/
theorem precedence_le_of_mem_rest {g : Grouping} (h : g.WellGrouped) {operator : String}
    (hroot : operator ∈ g.root?) {joint : String × Expr} (hjoint : joint ∈ g.rest) :
    Symbol.precedence operator ≤ Symbol.precedence joint.1 := by
  induction g generalizing operator with
  | operand e => cases hroot
  | group left op right ihl ihr =>
    cases hroot
    obtain ⟨hl, hr, hleft, hright⟩ := h
    rw [rest, List.mem_append, List.mem_cons] at hjoint
    obtain hjoint | rfl | hjoint := hjoint
    · cases left with
      | operand e => cases hjoint
      | group l o r => exact Nat.le_trans (hleft o rfl) (ihl hl rfl hjoint)
    · exact Nat.le_refl _
    · cases right with
      | operand e => cases hjoint
      | group l o r =>
        have hlt := hright o rfl
        have hle := ihr hr rfl hjoint
        omega

/-- The operators of the right part of a well grouped tree bind tighter than
the one at its root. -/
theorem precedence_lt_of_mem_right {left right : Grouping} {operator : String}
    (h : (group left operator right).WellGrouped) {joint : String × Expr}
    (hjoint : joint ∈ right.rest) : Symbol.precedence operator < Symbol.precedence joint.1 := by
  obtain ⟨-, hr, -, hright⟩ := h
  cases right with
  | operand e => cases hjoint
  | group l o r =>
    have hlt := hright o rfl
    have hle := precedence_le_of_mem_rest hr rfl hjoint
    omega

/-- The operators of the left part bind no less tight than the one at the root. -/
theorem precedence_le_of_mem_left {left right : Grouping} {operator : String}
    (h : (group left operator right).WellGrouped) {joint : String × Expr}
    (hjoint : joint ∈ left.rest) : Symbol.precedence operator ≤ Symbol.precedence joint.1 :=
  precedence_le_of_mem_rest h rfl (List.mem_append_left _ hjoint)

/-- In two well grouped trees of one chain the operator at the root stands at
the same place: were one further to the left, it would bind less tight than the
other, being to the left of it in its own tree, and no less tight, being to the
right of the other's root. -/
theorem not_root_before {l l' r r' : Grouping} {o o' : String} {more : List (String × Expr)}
    (h : (group l o r).WellGrouped) (h' : (group l' o' r').WellGrouped)
    (hl : l.rest = l'.rest ++ (o', r'.first) :: more)
    (hr : r'.rest = more ++ (o, r.first) :: r.rest) : False := by
  have hmem : (o', r'.first) ∈ l.rest := by
    rw [hl]
    exact List.mem_append_right _ List.mem_cons_self
  have hmem' : (o, r.first) ∈ r'.rest := by
    rw [hr]
    exact List.mem_append_right _ List.mem_cons_self
  have hle := precedence_le_of_mem_left h hmem
  have hlt := precedence_lt_of_mem_right h' hmem'
  exact Nat.not_lt_of_le hle hlt

/-- Two well grouped trees of one chain are equal. -/
theorem eq_of_wellGrouped {g g' : Grouping} (h : g.WellGrouped) (h' : g'.WellGrouped)
    (hfirst : g.first = g'.first) (hrest : g.rest = g'.rest) : g = g' := by
  induction g generalizing g' with
  | operand e =>
    cases g' with
    | operand e' => exact congrArg operand hfirst
    | group l o r => simp [rest] at hrest
  | group l o r ihl ihr =>
    cases g' with
    | operand e' => simp [rest] at hrest
    | group l' o' r' =>
      -- One root stands before the other in the chain, or they are the same.
      rw [rest, rest] at hrest
      obtain ⟨more, hl, hr⟩ | ⟨more, hl, hr⟩ := List.append_eq_append_iff.mp hrest
      · cases more with
        | nil =>
          rw [List.append_nil] at hl
          simp only [List.nil_append, List.cons.injEq, Prod.mk.injEq] at hr
          obtain ⟨⟨rfl, hrf⟩, hrr⟩ := hr
          rw [ihl h.1 h'.1 hfirst hl.symm, ihr h.2.1 h'.2.1 hrf hrr]
        | cons joint more =>
          rw [List.cons_append, List.cons.injEq] at hr
          obtain ⟨rfl, hr⟩ := hr
          exact (not_root_before h' h hl hr).elim
      · cases more with
        | nil =>
          rw [List.append_nil] at hl
          simp only [List.nil_append, List.cons.injEq, Prod.mk.injEq] at hr
          obtain ⟨⟨rfl, hrf⟩, hrr⟩ := hr
          rw [ihl h.1 h'.1 hfirst hl, ihr h.2.1 h'.2.1 hrf.symm hrr.symm]
        | cons joint more =>
          rw [List.cons_append, List.cons.injEq] at hr
          obtain ⟨rfl, hr⟩ := hr
          exact (not_root_before h h' hl hr).elim

end Grouping

end BindingLang
