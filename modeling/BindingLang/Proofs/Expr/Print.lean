import BindingLang.Proofs.Expr.Numeral
import BindingLang.Proofs.Expr.Tree
/-!
  Printing: a source for every tree.

  Whatever is a part of another node (an operand, a receiver, an argument, an
  item, the value of an entry, a branch) is printed in parentheses, and nothing
  else is. Strings are printed in the quotation mark `q`, numbers in decimal.
-/

namespace BindingLang

/-- The text in parentheses. -/
def enclosed (cs : List Char) : List Char := '(' :: (cs ++ [')'])

/-- The text of a constant. -/
def Literal.chars (q : Quote) : Literal → List Char
  | .string s => quoted q s.toList
  | .integer n => integerText n
  | .float x => floatText x
  | .boolean true => "true".toList
  | .boolean false => "false".toList
  | .null => "null".toList

namespace Expr

mutual

/-- The text of a tree. -/
def chars (q : Quote) : Expr → List Char
  | .empty => []
  | .literal value => value.chars q
  | .id name => name.toList
  | .unary operator child => operator.toList ++ enclosed (chars q child)
  | .binary operator left right =>
    enclosed (chars q left) ++ (operator.toList ++ enclosed (chars q right))
  | .getter receiver name => enclosed (chars q receiver) ++ '.' :: name.toList
  | .invoke receiver (some method) arguments =>
    enclosed (chars q receiver) ++
      '.' :: (method.toList ++ '(' :: (charsOfItems q arguments ++ [')']))
  | .invoke receiver none arguments =>
    enclosed (chars q receiver) ++ '(' :: (charsOfItems q arguments ++ [')'])
  | .index receiver argument =>
    enclosed (chars q receiver) ++ '[' :: (enclosed (chars q argument) ++ [']'])
  | .ternary condition whenTrue whenFalse =>
    enclosed (chars q condition) ++
      '?' :: (enclosed (chars q whenTrue) ++ ':' :: enclosed (chars q whenFalse))
  | .map entries => '\x7b' :: (charsOfEntries q entries ++ ['\x7d'])
  | .list items => '[' :: (charsOfItems q items ++ [']'])
termination_by structural e => e

/-- The texts of a list of trees, with commas between them. -/
def charsOfItems (q : Quote) : List Expr → List Char
  | [] => []
  | item :: items =>
    enclosed (chars q item) ++ (if items.isEmpty then [] else ',' :: charsOfItems q items)
termination_by structural items => items

/-- The texts of entries, with commas between them. -/
def charsOfEntries (q : Quote) : List (String × Expr) → List Char
  | [] => []
  | (key, node) :: entries =>
    quoted q key.toList ++ ':' :: (enclosed (chars q node) ++
      (if entries.isEmpty then [] else ',' :: charsOfEntries q entries))
termination_by structural entries => entries

end

/-- The source of a tree. -/
def print (q : Quote) (e : Expr) : String := String.ofList (e.chars q)

/-- Whether the text is a name that stands for no constant. -/
def IsName (name : String) : Prop :=
  IsIdentifier name.toList ∧ name ≠ "true" ∧ name ≠ "false" ∧ name ≠ "null"

instance : DecidablePred IsName := fun name =>
  inferInstanceAs (Decidable (IsIdentifier name.toList ∧ name ≠ "true" ∧ name ≠ "false" ∧
    name ≠ "null"))

/-- Whether the node can come out of a source: its operator is one, its names
can be written, its keys are distinct, its number is finite. -/
def Printable : Expr → Prop
  | .empty => False
  | .literal (.float x) => (Binary64.finite? x).isSome = true
  | .literal _ => True
  | .id name => IsName name
  | .unary operator _ => operator ∈ Symbol.unaryOperators
  | .binary operator _ _ => operator ∈ Symbol.binaryOperators
  | .getter _ name => IsName name
  | .invoke _ (some method) _ => IsName method ∧ method ≠ "this"
  | .invoke _ none _ => True
  | .index _ _ => True
  | .ternary _ _ _ => True
  | .map entries => (entries.map Prod.fst).Nodup
  | .list _ => True

end Expr

end BindingLang
