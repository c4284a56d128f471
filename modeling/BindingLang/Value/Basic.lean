import BindingLang.Dict
import BindingLang.Expr.Basic
/-!
  Values: what expressions are about.

  A scope is a value too: the chain of its links, nearest first. Each link
  carries a number that tells it from every other one, so a scope is known by
  the number of its first link.
-/

namespace BindingLang

/-- A function of the surroundings: a name to tell, and a number that tells it
from every other function. -/
structure Function where
  name : String
  id : Nat
  deriving DecidableEq, Repr

/-- One link of a scope: the names bound at it, and whether it stands for the
name `this` itself. -/
structure Link (α : Type) where
  id : Nat
  bindings : List (String × α)
  bindsThis : Bool

/-- A value. -/
inductive Value where
  /-- What a name or a member stands for that does not exist. -/
  | undefined
  | null
  | boolean (b : Bool)
  | integer (n : Int64)
  | float (x : Float)
  | string (s : String)
  | array (items : List Value)
  | object (entries : List (String × Value))
  | function (f : Function)
  | scope (links : List (Link Value))

/-- A chain of named values, nearest link first. -/
abbrev Scope := List (Link Value)

namespace Value

/-- The name of the kind of value. -/
def typeName : Value → String
  | .undefined => "undefined"
  | .null => "null"
  | .boolean _ => "boolean"
  | .integer _ => "integer"
  | .float _ => "float"
  | .string _ => "string"
  | .array _ => "array"
  | .object _ => "object"
  | .function _ => "function"
  | .scope _ => "scope"

/-- Whether the value counts as true in a condition. -/
def isTruthy : Value → Bool
  | .undefined => false
  | .null => false
  | .boolean b => b
  | .integer n => n != 0
  | .float x => x != 0.0 && !x.isNaN
  | .string s => s != ""
  | .array _ => true
  | .object _ => true
  | .function _ => true
  | .scope _ => true

/-- The value of a constant. -/
def ofLiteral : Literal → Value
  | .string s => .string s
  | .integer n => .integer n
  | .float x => .float x
  | .boolean b => .boolean b
  | .null => .null

end Value

end BindingLang
