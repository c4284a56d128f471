import BindingLang.Expr.Basic
import BindingLang.Json.Basic
/-!
  The document of an expression: its tree as JSON.

  Each node is an object whose field `type` names the kind of node. A map's
  entries are one object, in which the last entry of a key stands.
-/

namespace BindingLang

namespace Literal

/-- A constant as a bare JSON scalar. -/
def toJson : Literal → Json
  | .string s => .string s
  | .integer n => .integer n
  | .float x => Json.ofFloat x
  | .boolean b => .boolean b
  | .null => .null

end Literal

namespace Expr

mutual

/-- The document of a tree. -/
def toJson : Expr → Json
  | .empty => Json.ofFields [("type", .string "Empty")]
  | .literal value => Json.ofFields [("type", .string "Literal"), ("value", value.toJson)]
  | .id name => Json.ofFields [("type", .string "ID"), ("value", .string name)]
  | .unary operator child =>
    Json.ofFields
      [("type", .string "Unary"), ("operator", .string operator), ("child", toJson child)]
  | .binary operator left right =>
    Json.ofFields
      [("type", .string "Binary"), ("operator", .string operator), ("left", toJson left),
        ("right", toJson right)]
  | .getter receiver name =>
    Json.ofFields
      [("type", .string "Getter"), ("receiver", toJson receiver), ("name", .string name)]
  | .invoke receiver method arguments =>
    Json.ofFields
      [("type", .string "Invoke"), ("receiver", toJson receiver),
        ("method", (method.map Json.string).getD .null),
        ("arguments", .array (itemsToJson arguments))]
  | .index receiver argument =>
    Json.ofFields
      [("type", .string "Index"), ("receiver", toJson receiver), ("argument", toJson argument)]
  | .ternary condition whenTrue whenFalse =>
    Json.ofFields
      [("type", .string "Ternary"), ("condition", toJson condition),
        ("trueExpr", toJson whenTrue), ("falseExpr", toJson whenFalse)]
  | .map entries =>
    Json.ofFields [("type", .string "Map"), ("entries", Json.ofFields (entriesToJson entries))]
  | .list items => Json.ofFields [("type", .string "List"), ("items", .array (itemsToJson items))]
termination_by structural e => e

def itemsToJson : List Expr → List Json
  | [] => []
  | item :: items => toJson item :: itemsToJson items
termination_by structural items => items

def entriesToJson : List (String × Expr) → List (String × Json)
  | [] => []
  | (key, node) :: entries => (key, toJson node) :: entriesToJson entries
termination_by structural entries => entries

end

end Expr

end BindingLang
