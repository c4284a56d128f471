import BindingLang.Expr.Basic
import BindingLang.Expr.ParseError
/-!
  Builders: the node constructors that a parse is carried out with.

  `Expr.builder` builds plain trees. `Formula.builder` builds formulas, which
  wrap a tree to be evaluated; it does so through the plain builder, node by
  node, so both build the same tree out of the same calls.
-/

namespace BindingLang

/-- What stands after a dot: a member's name, or the call of a method. -/
inductive Member (N : Type) where
  | name (name : String)
  | call (method : String) (arguments : List N)

/-- One constructor for each kind of node. -/
structure Builder (N : Type) where
  empty : N
  literal : Literal → N
  id : String → N
  unary : String → N → N
  binary : N → String → N → N
  getter : N → String → N
  /-- A call; one without an argument list is refused. -/
  invoke : N → Option String → Option (List N) → Except ParseError N
  /-- A parenthesised node. -/
  paren : N → N
  index : N → N → N
  ternary : N → N → N → N
  map : List (String × N) → N
  list : List N → N
  /-- Splits the node after a dot: a name is a member's name, and the call of a
  name is the call of a method. Of any other node the kind is told. -/
  member : N → Except String (Member N)

namespace Expr

/-- Splits the node after a dot. -/
def member : Expr → Except String (Member Expr)
  | .id name => .ok (.name name)
  | .invoke (.id name) _ arguments => .ok (.call name arguments)
  | other => .error other.typeName

/-- Builds plain trees. -/
def builder : Builder Expr where
  empty := .empty
  literal := .literal
  id := .id
  unary := .unary
  binary left operator right := .binary operator left right
  getter := .getter
  invoke receiver method
    | some arguments => .ok (.invoke receiver method arguments)
    | none => .error .invalidArguments
  paren inner := inner
  index := .index
  ternary := .ternary
  map := .map
  list := .list
  member := member

end Expr

/-- A tree to be evaluated. -/
structure Formula where
  expr : Expr

namespace Formula

/-- Builds formulas, by the plain builder's nodes. -/
def builder : Builder Formula where
  empty := ⟨Expr.builder.empty⟩
  literal value := ⟨Expr.builder.literal value⟩
  id name := ⟨Expr.builder.id name⟩
  unary operator child := ⟨Expr.builder.unary operator child.expr⟩
  binary left operator right := ⟨Expr.builder.binary left.expr operator right.expr⟩
  getter receiver name := ⟨Expr.builder.getter receiver.expr name⟩
  invoke receiver method arguments :=
    (Expr.builder.invoke receiver.expr method (arguments.map (·.map Formula.expr))).map Formula.mk
  paren inner := inner
  index receiver argument := ⟨Expr.builder.index receiver.expr argument.expr⟩
  ternary condition whenTrue whenFalse :=
    ⟨Expr.builder.ternary condition.expr whenTrue.expr whenFalse.expr⟩
  map entries := ⟨Expr.builder.map (entries.map fun entry => (entry.1, entry.2.expr))⟩
  list items := ⟨Expr.builder.list (items.map Formula.expr)⟩
  member node :=
    match Expr.builder.member node.expr with
    | .ok (.name name) => .ok (.name name)
    | .ok (.call method arguments) => .ok (.call method (arguments.map Formula.mk))
    | .error kind => .error kind

end Formula

end BindingLang
