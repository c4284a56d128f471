/-!
  Operators: what the operator symbols stand for in evaluation.

  Two symbols that may stand between operands, `&` and `^`, stand for nothing.
-/

namespace BindingLang

/-- The operations on numbers. -/
inductive Arithmetic where
  | add
  | subtract
  | multiply
  | divide
  | remainder
  deriving DecidableEq, Repr

/-- The operation in the words of a message. -/
def Arithmetic.verb : Arithmetic → String
  | .add => "add"
  | .subtract => "subtract"
  | .multiply => "multiply"
  | .divide => "divide"
  | .remainder => "take the remainder of"

/-- The comparisons by order. -/
inductive Comparison where
  | less
  | lessOrEqual
  | greater
  | greaterOrEqual
  deriving DecidableEq, Repr

def Comparison.symbol : Comparison → String
  | .less => "<"
  | .lessOrEqual => "<="
  | .greater => ">"
  | .greaterOrEqual => ">="

/-- Whether the comparison holds of two operands in the given order; of
operands without an order none does. -/
def Comparison.holds (c : Comparison) : Option Ordering → Bool
  | none => false
  | some order =>
    match c with
    | .less => order.isLT
    | .lessOrEqual => order.isLE
    | .greater => order.isGT
    | .greaterOrEqual => order.isGE

/-- The operators before an operand. -/
inductive UnaryOperator where
  | plus
  | minus
  | not
  deriving DecidableEq, Repr

def UnaryOperator.ofSymbol? (symbol : String) : Option UnaryOperator :=
  if symbol = "+" then some .plus
  else if symbol = "-" then some .minus
  else if symbol = "!" then some .not
  else none

/-- The operators between two operands. -/
inductive BinaryOperator where
  | arithmetic (operation : Arithmetic)
  | compare (comparison : Comparison)
  | equal
  | unequal
  | identical
  | different
  | and
  | or
  | filter
  deriving DecidableEq, Repr

def BinaryOperator.ofSymbol? (symbol : String) : Option BinaryOperator :=
  if symbol = "+" then some (.arithmetic .add)
  else if symbol = "-" then some (.arithmetic .subtract)
  else if symbol = "*" then some (.arithmetic .multiply)
  else if symbol = "/" then some (.arithmetic .divide)
  else if symbol = "%" then some (.arithmetic .remainder)
  else if symbol = "==" then some .equal
  else if symbol = "!=" then some .unequal
  else if symbol = "===" then some .identical
  else if symbol = "!==" then some .different
  else if symbol = "<" then some (.compare .less)
  else if symbol = "<=" then some (.compare .lessOrEqual)
  else if symbol = ">" then some (.compare .greater)
  else if symbol = ">=" then some (.compare .greaterOrEqual)
  else if symbol = "||" then some .or
  else if symbol = "&&" then some .and
  else if symbol = "|" then some .filter
  else none

end BindingLang
