import BindingLang.Operator
/-!
  The errors of evaluation, and how they are told.
-/

namespace BindingLang

/-- Operands or arguments that an operation has no result for. Values are told
by the names of their kinds. -/
inductive TypeFault where
  | cannotCombine (operation : Arithmetic) (left right : String)
  | cannotCompare (comparison : Comparison) (left right : String)
  | cannotNegate (operand : String)
  /-- A method got an argument that is no text. -/
  | stringExpected (method got : String)
  | argumentMissing (method : String)
  /-- A method got a pattern that is not well formed. -/
  | invalidPattern
  deriving DecidableEq, Repr

def TypeFault.message : TypeFault → String
  | .cannotCombine operation left right =>
    "cannot " ++ operation.verb ++ " " ++ left ++ " and " ++ right
  | .cannotCompare comparison left right =>
    "cannot compare " ++ left ++ " " ++ comparison.symbol ++ " " ++ right
  | .cannotNegate operand => "cannot negate " ++ operand
  | .stringExpected method got => method ++ "() expects a string argument, got " ++ got
  | .argumentMissing method => method ++ "() requires an argument"
  | .invalidPattern => "invalid regex"

/-- Why an expression has no value. -/
inductive EvalError where
  | typeError (fault : TypeFault)
  /-- A member of what has no members was read. -/
  | accessError (property target : String)
  /-- Something other than a function was called. -/
  | notCallable (callee : String)
  /-- The operator stands for nothing. -/
  | unknownOperator (operator : String)
  | divisionByZero
  /-- A function of the surroundings failed. -/
  | native (message : String)
  deriving DecidableEq, Repr

def EvalError.message : EvalError → String
  | .typeError fault => "type error: " ++ fault.message
  | .accessError property target => "cannot read property '" ++ property ++ "' of " ++ target
  | .notCallable callee => callee ++ " is not a function"
  | .unknownOperator operator => "no evaluation rule for operator '" ++ operator ++ "'"
  | .divisionByZero => "division by zero"
  | .native message => message

end BindingLang
