import BindingLang.Eval.Error
import BindingLang.Integer
import BindingLang.Scaled.Arithmetic
import BindingLang.Scaled.Convert
import BindingLang.Scaled.Division
import BindingLang.Value.Equality
/-!
  Arithmetic and order of values.

  Two integers give an integer where there is an exact one, and else a float.
  Two floats give a float. An integer and a float meet as scaled decimals, so
  that a whole result is an integer again.
-/

namespace BindingLang

/-- An operand of arithmetic. -/
inductive Number where
  | integer (n : Int64)
  | float (x : Float)

namespace Arithmetic

/-- The operation on floats. -/
def ofFloats (operation : Arithmetic) (a b : Float) : Float :=
  match operation with
  | .add => a + b
  | .subtract => a - b
  | .multiply => a * b
  | .divide => a / b
  | .remainder => Binary64.remainder a b

/-- The operation on scaled decimals. -/
def ofScaled? (operation : Arithmetic) (a b : Scaled) : Option Scaled :=
  match operation with
  | .add => a.add b
  | .subtract => a.subtract b
  | .multiply => a.multiply b
  | .divide => a.divide b
  | .remainder => a.remainder b

/-- The exact result on integers, for a divisor other than zero; a division
that leaves a rest has none. -/
def ofIntegers? (operation : Arithmetic) (a b : Int) : Option Int :=
  match operation with
  | .add => some (a + b)
  | .subtract => some (a - b)
  | .multiply => some (a * b)
  | .divide => if a.tmod b = 0 then some (a.tdiv b) else none
  | .remainder => some (a.tmod b)

/-- Whether the operation divides. -/
def divides : Arithmetic → Bool
  | .divide => true
  | .remainder => true
  | .add => false
  | .subtract => false
  | .multiply => false

/-- The result on two integers: exact where 64 bits hold it, else a float. -/
def integers (operation : Arithmetic) (a b : Int64) : Except EvalError Value :=
  if operation.divides && b == 0 then .error .divisionByZero
  else
    match (operation.ofIntegers? a.toInt b.toInt).bind Integer.ofInt? with
    | some n => .ok (.integer n)
    | none =>
      .ok (.float (operation.ofFloats (Value.floatOfInteger a) (Value.floatOfInteger b)))

/-- A scaled decimal as a value: an integer where it is one of 64 bits. -/
def valueOfScaled (d : Scaled) : Value :=
  match if d.isWhole then Integer.ofInt? d.truncate else none with
  | some n => .integer n
  | none => .float d.toFloat

/-- The result on an integer, taken as a float, and a float. -/
def mixed (operation : Arithmetic) (a b : Float) : Value :=
  let decimal : Option Scaled := do
    let x ← Scaled.ofFloat? a
    let y ← Scaled.ofFloat? b
    operation.ofScaled? x y
  match decimal with
  | some d => valueOfScaled d
  | none => .float (operation.ofFloats a b)

/-- The result on two numbers. -/
def numbers (operation : Arithmetic) : Number → Number → Except EvalError Value
  | .integer a, .integer b => operation.integers a b
  | .float a, .float b => .ok (.float (operation.ofFloats a b))
  | .integer a, .float b => .ok (operation.mixed (Value.floatOfInteger a) b)
  | .float a, .integer b => .ok (operation.mixed a (Value.floatOfInteger b))

end Arithmetic

namespace Value

/-- The value as an operand of arithmetic: booleans count as one and zero, and
null as zero. -/
def number? : Value → Option Number
  | .integer n => some (.integer n)
  | .float x => some (.float x)
  | .boolean b => some (.integer (if b then 1 else 0))
  | .null => some (.integer 0)
  | .undefined => none
  | .string _ => none
  | .array _ => none
  | .object _ => none
  | .function _ => none
  | .scope _ => none

/-- The result of arithmetic on two values. -/
def combine (operation : Arithmetic) (left right : Value) : Except EvalError Value :=
  match left.number?, right.number? with
  | some a, some b => operation.numbers a b
  | _, _ => .error (.typeError (.cannotCombine operation left.typeName right.typeName))

/-- Whether the value is a text. -/
def isText : Value → Bool
  | .string _ => true
  | _ => false

/-- The sum of two numbers; next to a text, both texts in a row. -/
def add (left right : Value) : Except EvalError Value :=
  if left.isText || right.isText then .ok (.string (left.text ++ right.text))
  else combine .add left right

/-- The order of two floats, none where one is not a number. -/
def floatOrder (a b : Float) : Option Ordering :=
  if a < b then some .lt else if a == b then some .eq else if b < a then some .gt else none

/-- The order of two texts, by their characters' numbers. -/
def textOrder (a b : String) : Ordering :=
  if a < b then .lt else if a = b then .eq else .gt

/-- The order of two integers. -/
def integerOrder (a b : Int64) : Ordering :=
  if a < b then .lt else if a = b then .eq else .gt

/-- Whether the value has a place in the order: compound values have none. -/
def isOrdered : Value → Bool
  | .undefined => true
  | .null => true
  | .boolean _ => true
  | .integer _ => true
  | .float _ => true
  | .string _ => true
  | .array _ => false
  | .object _ => false
  | .function _ => false
  | .scope _ => false

/-- The comparison of two values: texts by characters, integers exactly, and
all else as floats. -/
def compare (comparison : Comparison) (left right : Value) : Except EvalError Value :=
  match left, right with
  | .string a, .string b => .ok (.boolean (comparison.holds (some (textOrder a b))))
  | .integer a, .integer b => .ok (.boolean (comparison.holds (some (integerOrder a b))))
  | left, right =>
    if left.isOrdered && right.isOrdered then
      .ok (.boolean (comparison.holds (floatOrder left.toNumber right.toNumber)))
    else .error (.typeError (.cannotCompare comparison left.typeName right.typeName))

/-- The value with its sign changed. -/
def negate : Value → Except EvalError Value
  | .integer n =>
    match Integer.ofInt? (-n.toInt) with
    | some m => .ok (.integer m)
    | none => .ok (.float (-floatOfInteger n))
  | .float x => .ok (.float (-x))
  | .boolean b => .ok (.integer (if b then -1 else 0))
  | .null => .ok (.integer 0)
  | .undefined => .ok (.float (-Binary64.nan))
  | .string s => .ok (.float (-numberOfText s))
  | .array items => .error (.typeError (.cannotNegate (Value.array items).typeName))
  | .object entries => .error (.typeError (.cannotNegate (Value.object entries).typeName))
  | .function f => .error (.typeError (.cannotNegate (Value.function f).typeName))
  | .scope links => .error (.typeError (.cannotNegate (Value.scope links).typeName))

/-- The result of an operator before its operand. -/
def applyUnary (symbol : String) (operand : Value) : Except EvalError Value :=
  match UnaryOperator.ofSymbol? symbol with
  | some .plus => .ok operand
  | some .minus => operand.negate
  | some .not => .ok (.boolean (!operand.isTruthy))
  | none => .error (.unknownOperator symbol)

end Value

end BindingLang
