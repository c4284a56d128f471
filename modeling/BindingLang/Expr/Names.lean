import BindingLang.Expr.Builder
/-!
  The names that an expression reads from its scope.

  Names are listed in the order of the source, each as often as it occurs. A
  member that is read, or a method that is called, directly on `this` is itself
  a name of the scope, and is listed in place of `this`.
-/

namespace BindingLang

namespace Expr

/-- The text that an index is certain to read: that of a string literal. -/
def literalKey? : Expr → Option String
  | .literal (.string key) => some key
  | _ => none

mutual

/-- The names that the tree reads, from left to right. -/
def names : Expr → List String
  | .empty => []
  | .literal _ => []
  | .id name => [name]
  | .unary _ child => names child
  | .binary _ left right => names left ++ names right
  | .getter receiver name => if receiver.isThis then [name] else names receiver
  | .index receiver argument =>
    match receiver.isThis, argument.literalKey? with
    | true, some key => [key]
    | _, _ => names receiver ++ names argument
  | .invoke receiver method arguments =>
    match receiver.isThis, method with
    | true, some name => name :: namesOfItems arguments
    | _, _ => names receiver ++ namesOfItems arguments
  | .ternary condition whenTrue whenFalse =>
    names condition ++ names whenTrue ++ names whenFalse
  | .map entries => namesOfEntries entries
  | .list items => namesOfItems items
termination_by structural e => e

def namesOfItems : List Expr → List String
  | [] => []
  | item :: items => names item ++ namesOfItems items
termination_by structural items => items

def namesOfEntries : List (String × Expr) → List String
  | [] => []
  | (_, node) :: entries => names node ++ namesOfEntries entries
termination_by structural entries => entries

end

/-- `seed` with the names that the tree reads after it. -/
def namesAfter (e : Expr) (seed : List String) : List String := seed ++ e.names

end Expr

namespace Formula

/-- `seed` with the names that the formula reads after it. -/
def namesAfter (f : Formula) (seed : List String) : List String := f.expr.namesAfter seed

end Formula

end BindingLang
