import BindingLang.Eval.Host
import BindingLang.Value.Arithmetic
/-!
  Operators on values.

  Both operands are values already, so `&&` and `||` choose one of them. A
  filter calls its right operand with the left one.
-/

namespace BindingLang

namespace Host

variable {σ : Type}

/-- Calls a filter with its input as the only argument. -/
def applyFilter (host : Host σ) (input filter : Value) : EvalM σ Value :=
  host.callValue filter .undefined [input] ("filter (" ++ filter.typeName ++ ")")

/-- The result of an operator between two operands. -/
def applyOperator (host : Host σ) (operator : BinaryOperator) (left right : Value) :
    EvalM σ Value :=
  match operator with
  | .arithmetic .add => EvalM.ofExcept (left.add right)
  | .arithmetic operation => EvalM.ofExcept (left.combine operation right)
  | .compare comparison => EvalM.ofExcept (Value.compare comparison left right)
  | .equal => pure (.boolean (left.looseEquals right))
  | .unequal => pure (.boolean (!left.looseEquals right))
  | .identical => pure (.boolean (left.strictEquals right))
  | .different => pure (.boolean (!left.strictEquals right))
  | .or => pure (if left.isTruthy then left else right)
  | .and => pure (if left.isTruthy then right else left)
  | .filter => host.applyFilter left right

/-- The result of an operator symbol between two operands. -/
def applyBinary (host : Host σ) (symbol : String) (left right : Value) : EvalM σ Value :=
  match BinaryOperator.ofSymbol? symbol with
  | some operator => host.applyOperator operator left right
  | none => throw (.unknownOperator symbol)

end Host

end BindingLang
