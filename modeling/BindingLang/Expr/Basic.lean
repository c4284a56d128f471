import BindingLang.Binary64.Numeral
import BindingLang.Integer
/-!
  Expressions: the trees that sources stand for.

  A tree keeps names and operators as they are written. Parentheses leave no
  trace, so `(a)` and `a` are the same tree.
-/

namespace BindingLang

/-- A constant. -/
inductive Literal where
  | string (s : String)
  | integer (n : Int64)
  | float (x : Float)
  | boolean (b : Bool)
  | null

/-- An expression. -/
inductive Expr where
  /-- The expression of an empty source; it stands for the scope itself. -/
  | empty
  | literal (value : Literal)
  /-- A free name, or the word `this`. -/
  | id (name : String)
  | unary (operator : String) (child : Expr)
  /-- An operator between two operands; the filter `|` is one of them. -/
  | binary (operator : String) (left right : Expr)
  /-- A named member read. -/
  | getter (receiver : Expr) (name : String)
  /-- A call: of a method of the receiver, or of the receiver itself. -/
  | invoke (receiver : Expr) (method : Option String) (arguments : List Expr)
  /-- A read by a computed key. -/
  | index (receiver argument : Expr)
  | ternary (condition whenTrue whenFalse : Expr)
  | map (entries : List (String × Expr))
  | list (items : List Expr)

namespace Expr

/-- The name of the kind of node. -/
def typeName : Expr → String
  | .empty => "Empty"
  | .literal _ => "Literal"
  | .id _ => "ID"
  | .unary _ _ => "Unary"
  | .binary _ _ _ => "Binary"
  | .getter _ _ => "Getter"
  | .invoke _ _ _ => "Invoke"
  | .index _ _ => "Index"
  | .ternary _ _ _ => "Ternary"
  | .map _ => "Map"
  | .list _ => "List"

/-- Whether the tree is the word `this`. -/
def isThis : Expr → Bool
  | .id name => name == "this"
  | _ => false

end Expr

namespace Literal

/-- The integer that a sign and digits write, if 64 bits hold it. -/
def readInt64? (cs : List Char) : Option Int64 :=
  let signed := Binary64.splitSign cs
  let run := Binary64.splitDigits signed.2
  if run.1.isEmpty ∨ !run.2.isEmpty then none
  else
    let magnitude : Int := Binary64.digitsValue run.1
    Integer.ofInt? (if signed.1 then -magnitude else magnitude)

/-- The constant of a sign and a run of digits: an integer, or the nearest
float to one that 64 bits do not hold. -/
def ofDigits? (sign digits : String) : Option Literal :=
  let cs := (sign ++ digits).toList
  match readInt64? cs with
  | some n => some (.integer n)
  | none => (Binary64.readNumeral? cs).map .float

/-- The constant of a sign and a number with a point; before a leading point a
zero is read. -/
def ofDecimal? (sign digits : String) : Option Literal :=
  let text := if digits.toList.head? = some '.' then "0" ++ digits else digits
  (Binary64.readNumeral? (sign ++ text).toList).map .float

end Literal

end BindingLang
