import BindingLang.Eval.Basic
import BindingLang.Expr.Document
import BindingLang.Expr.Names
import BindingLang.Expr.Parser
import BindingLang.Json.Convert
import BindingLang.Json.Reader
/-!
  The commands: evaluating an expression against a scope written in JSON, and
  telling its tree or its names.
-/

namespace BindingLang

/-- Why a command has no result. -/
inductive CommandError where
  | parse (e : ParseError)
  | eval (e : EvalError)
  /-- The text of a scope is no JSON. -/
  | json
  /-- The document of a scope is no object. -/
  | scopeNotObject (kind : String)
  deriving DecidableEq, Repr

def CommandError.message : CommandError → String
  | .parse e => "Parse error: " ++ e.message
  | .eval e => "Evaluation error: " ++ e.message
  | .json => "Invalid JSON"
  | .scopeNotObject kind => "Scope must be a JSON object, got " ++ kind

namespace Command

/-- A host without functions. -/
def bareHost : Host Unit where
  call f _ _ := throw (.notCallable f.name)

/-- The scope that a text describes; a blank text describes one without
bindings. -/
def readScope (text : String) : Except CommandError Scope :=
  if (Text.trim text.toList).isEmpty then .ok (Scope.root 0 [])
  else
    match Json.ofText? text with
    | none => .error .json
    | some document =>
      match Scope.ofJson? 0 document with
      | some scope => .ok scope
      | none => .error (.scopeNotObject document.kindName)

/-- The value of an expression in the scope of a text, as JSON. The expression
is parsed before the scope is read. -/
def evaluate (source : String) (scope : Option String) : Except CommandError Json := do
  let formula ← (Formula.parse source).mapError CommandError.parse
  let scope ← readScope (scope.getD "")
  let value ← ((formula.eval bareHost scope).run.run ()).1.mapError CommandError.eval
  return value.toJson

/-- The tree of an expression, as JSON. -/
def tree (source : String) : Except CommandError Json :=
  ((Expr.parse source).mapError CommandError.parse).map Expr.toJson

/-- The names that an expression reads. -/
def names (source : String) : Except CommandError (List String) :=
  ((Expr.parse source).mapError CommandError.parse).map Expr.names

end Command

end BindingLang
