import BindingLang.Text.Blank
import BindingLang.Value.Basic
/-!
  The text of values, and the numbers that values and texts stand for.
-/

namespace BindingLang

namespace Value

/-- The number that a text writes: nothing but blanks is zero, and what writes
no number is not a number. -/
def numberOfText (s : String) : Float :=
  let cs := Text.trim s.toList
  if cs.isEmpty then Binary64.zero false
  else if cs = "Infinity".toList ∨ cs = "+Infinity".toList then Binary64.infinity false
  else if cs = "-Infinity".toList then Binary64.infinity true
  else (Binary64.readNumeral? cs).getD Binary64.nan

/-- An integer as a float. -/
def floatOfInteger (n : Int64) : Float := Binary64.ofInt n.toInt

/-- The value as a number; a compound value is not a number. -/
def toNumber : Value → Float
  | .integer n => floatOfInteger n
  | .float x => x
  | .boolean b => if b then 1.0 else 0.0
  | .null => 0.0
  | .string s => numberOfText s
  | .undefined => Binary64.nan
  | .array _ => Binary64.nan
  | .object _ => Binary64.nan
  | .function _ => Binary64.nan
  | .scope _ => Binary64.nan

/-- Whether the value leaves no text among the items of an array. -/
def isAbsent : Value → Bool
  | .undefined => true
  | .null => true
  | _ => false

mutual

/-- The value as text: a piece of a longer text, or the name of a member. -/
def text : Value → String
  | .undefined => "undefined"
  | .null => "null"
  | .boolean b => if b then "true" else "false"
  | .integer n => toString n.toInt
  | .float x => Binary64.toText x
  | .string s => s
  | .array items => ",".intercalate (texts items)
  | .object _ => "[object Object]"
  | .function f => "function " ++ f.name
  | .scope _ => "[object Object]"
termination_by structural v => v

/-- The texts of the items of an array; what is absent is empty. -/
def texts : List Value → List String
  | [] => []
  | item :: items => (if item.isAbsent then "" else text item) :: texts items
termination_by structural items => items

end

end Value

end BindingLang
