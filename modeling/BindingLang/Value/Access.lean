import BindingLang.Binary64.Whole
import BindingLang.Eval.Error
import BindingLang.Scope.Basic
import BindingLang.Value.Text
/-!
  Reading parts of values: named members, and items by computed keys.
-/

namespace BindingLang

namespace Value

/-- The length of a list as an integer. -/
def ofLength (n : Nat) : Value := .integer (Int64.ofInt n)

/-- The member `name` of the value. An object has its entries, a scope all
that its chain tells, and texts and arrays have a length; any other member is
undefined. What is absent has no members to read. -/
def member (value : Value) (name : String) : Except EvalError Value :=
  match value with
  | .undefined => .error (.accessError name value.typeName)
  | .null => .error (.accessError name value.typeName)
  | .object entries => .ok ((Dict.get? entries name).getD .undefined)
  | .scope links => .ok (Scope.lookup links name)
  | .array items => .ok (if name = "length" then ofLength items.length else .undefined)
  | .string s => .ok (if name = "length" then ofLength s.toList.length else .undefined)
  | .boolean _ => .ok .undefined
  | .integer _ => .ok .undefined
  | .float _ => .ok .undefined
  | .function _ => .ok .undefined

/-- The position that a value names: a whole number that is not negative. -/
def position? : Value → Option Nat
  | .integer n => if 0 ≤ n.toInt then some n.toInt.toNat else none
  | .float x => if Binary64.isWhole x && x ≥ 0.0 then some (Binary64.toPosition x) else none
  | _ => none

/-- The character at a position, as a text of its own. -/
def charAt (s : String) (position : Nat) : Value :=
  match s.toList[position]? with
  | some c => .string (String.ofList [c])
  | none => .undefined

/-- The part of the value under a computed key: by position in texts and
arrays where the key names one, and else the member that the key's text
names. -/
def index (value key : Value) : Except EvalError Value :=
  match value, key.position? with
  | .array items, some position => .ok (items[position]?.getD .undefined)
  | .string s, some position => .ok (charAt s position)
  | value, _ => value.member key.text

end Value

end BindingLang
