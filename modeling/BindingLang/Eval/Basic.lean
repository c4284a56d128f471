import BindingLang.Eval.Operator
import BindingLang.Expr.Builder
/-!
  Evaluation: the value of an expression in a scope.

  Operands are evaluated from left to right, and the first failure ends an
  evaluation. Of a choice only the branch that its condition selects is
  evaluated. The method of a call is looked up on the receiver before the
  arguments are evaluated; where the receiver has no such member, the built-in
  method of that name is called.
-/

namespace BindingLang

namespace Expr

/-- What a call that fails is said to have called. -/
def calleeLabel : Expr → String
  | .id name => name
  | .getter _ name => name
  | other => other.typeName ++ " expression"

/-- What `this` is in the call of a plain function: what the scope says, or
else the scope itself. -/
def implicitThis (scope : Scope) : Value :=
  match scope.lookup "this" with
  | .undefined => .scope scope
  | bound => bound

section

variable {σ : Type} (host : Host σ) (scope : Scope)

mutual

/-- The value of an expression. -/
def eval : Expr → EvalM σ Value
  | .empty => pure (.scope scope)
  | .literal value => pure (Value.ofLiteral value)
  | .id name => pure (if name = "this" then .scope scope else scope.lookup name)
  | .unary operator child => do
    let operand ← eval child
    EvalM.ofExcept (Value.applyUnary operator operand)
  | .binary operator left right => do
    let left ← eval left
    let right ← eval right
    host.applyBinary operator left right
  | .getter receiver name => do
    let receiver ← eval receiver
    EvalM.ofExcept (receiver.member name)
  | .index receiver argument => do
    let receiver ← eval receiver
    let key ← eval argument
    EvalM.ofExcept (receiver.index key)
  | .ternary condition whenTrue whenFalse => do
    let condition ← eval condition
    if condition.isTruthy then eval whenTrue else eval whenFalse
  | .map entries => do
    let entries ← evalEntries entries
    pure (.object (Dict.ofList entries))
  | .list items => do
    let items ← evalItems items
    pure (.array items)
  | .invoke receiver (some method) arguments => do
    let receiver ← eval receiver
    let member ← EvalM.ofExcept (receiver.member method)
    let arguments ← evalItems arguments
    match member with
    | .undefined => host.callBuiltin receiver method arguments
    | callee => host.callValue callee receiver arguments method
  | .invoke receiver none arguments => do
    let callee ← eval receiver
    let arguments ← evalItems arguments
    host.callValue callee (implicitThis scope) arguments receiver.calleeLabel
termination_by structural e => e

/-- The values of expressions, first to last. -/
def evalItems : List Expr → EvalM σ (List Value)
  | [] => pure []
  | item :: items => do
    let value ← eval item
    let values ← evalItems items
    pure (value :: values)
termination_by structural items => items

/-- The entries of a map with the values of its expressions. -/
def evalEntries : List (String × Expr) → EvalM σ (List (String × Value))
  | [] => pure []
  | (key, node) :: entries => do
    let value ← eval node
    let values ← evalEntries entries
    pure ((key, value) :: values)
termination_by structural entries => entries

end

end

end Expr

namespace Formula

variable {σ : Type}

/-- The value of a formula. -/
def eval (f : Formula) (host : Host σ) (scope : Scope) : EvalM σ Value := f.expr.eval host scope

end Formula

end BindingLang
