import BindingLang.Pattern.Match
import BindingLang.Text.Case
import BindingLang.Text.Search
import BindingLang.Value.Access
import BindingLang.Value.Equality
/-!
  The built-in methods of texts and arrays.

  Positions count characters. A method that needs a text refuses every other
  argument; one that takes positions reads any value as a number and keeps it
  within the text.
-/

namespace BindingLang

namespace Value

/-- The argument at a position, which has to be a text. -/
def stringArgument (method : String) (arguments : List Value) (position : Nat) :
    Except EvalError String :=
  match arguments[position]? with
  | some (.string s) => .ok s
  | some other => .error (.typeError (.stringExpected method other.typeName))
  | none => .error (.typeError (.argumentMissing method))

/-- The argument at a position as a position within a text of `length`
characters; `default` where it is missing or undefined. -/
def positionArgument (arguments : List Value) (position default length : Nat) : Nat :=
  match arguments[position]? with
  | none => default
  | some .undefined => default
  | some value => min (Binary64.toPosition value.toNumber) length

/-- The place found, or minus one. -/
def ofPlace : Option Nat → Value
  | some place => ofLength place
  | none => .integer (-1)

/-- The characters between two positions, in either order. -/
def slice (cs : List Char) (a b : Nat) : List Char :=
  (cs.take (max a b)).drop (min a b)

/-- The part of a text between two positions, by default its start and end. -/
def substring (s : String) (arguments : List Value) : Value :=
  let cs := s.toList
  let start := positionArgument arguments 0 0 cs.length
  let stop := positionArgument arguments 1 cs.length cs.length
  .string (String.ofList (slice cs start stop))

/-- The parts of a text between the occurrences of a separator. -/
def split (s separator : String) : Value :=
  .array ((Text.parts separator.toList s.toList).map fun part => .string (String.ofList part))

/-- The texts of the items of an array, with a separator between them. -/
def join (items : List Value) (separator : String) : String :=
  separator.intercalate (texts items)

/-- The separator of a join: a comma where none is given. -/
def separatorArgument (arguments : List Value) : String :=
  match arguments.head? with
  | none => ","
  | some .undefined => ","
  | some value => value.text

/-- Whether a pattern occurs in a text. -/
def matchesPattern (s pattern : String) : Except EvalError Value :=
  match Pattern.occursIn? pattern s with
  | some found => .ok (.boolean found)
  | none => .error (.typeError .invalidPattern)

/-- The result of a method of texts, if there is one of that name. -/
def callText? (s method : String) (arguments : List Value) : Option (Except EvalError Value) :=
  let withText (f : String → Value) : Option (Except EvalError Value) :=
    some ((stringArgument method arguments 0).map f)
  if method = "toString" then some (.ok (.string s))
  else if method = "toUpperCase" then some (.ok (.string (Text.toUpper s)))
  else if method = "toLowerCase" then some (.ok (.string (Text.toLower s)))
  else if method = "trim" then some (.ok (.string (String.ofList (Text.trim s.toList))))
  else if method = "substring" then some (.ok (substring s arguments))
  else if method = "split" then withText (split s)
  else if method = "includes" then
    withText fun needle => .boolean (Text.contains s.toList needle.toList)
  else if method = "startsWith" then
    withText fun needle => .boolean (Text.startsWith s.toList needle.toList)
  else if method = "endsWith" then
    withText fun needle => .boolean (Text.endsWith s.toList needle.toList)
  else if method = "indexOf" then
    withText fun needle => ofPlace (Text.find? needle.toList s.toList)
  else if method = "matches" then
    some ((stringArgument method arguments 0).bind (matchesPattern s))
  else none

/-- The result of a method of arrays, if there is one of that name. -/
def callArray? (items : List Value) (method : String) (arguments : List Value) :
    Option (Except EvalError Value) :=
  let needle := arguments.head?.getD .undefined
  if method = "toString" then some (.ok (.string (Value.array items).text))
  else if method = "join" then some (.ok (.string (join items (separatorArgument arguments))))
  else if method = "includes" then
    some (.ok (.boolean (items.any fun item => item.strictEquals needle)))
  else if method = "indexOf" then
    some (.ok (ofPlace (items.findIdx? fun item => item.strictEquals needle)))
  else none

/-- The result of a built-in method, if the value's kind has one of that name. -/
def builtin? (receiver : Value) (method : String) (arguments : List Value) :
    Option (Except EvalError Value) :=
  match receiver with
  | .string s => callText? s method arguments
  | .array items => callArray? items method arguments
  | .boolean _ => if method = "toString" then some (.ok (.string receiver.text)) else none
  | .integer _ => if method = "toString" then some (.ok (.string receiver.text)) else none
  | .float _ => if method = "toString" then some (.ok (.string receiver.text)) else none
  | .undefined => none
  | .null => none
  | .object _ => none
  | .function _ => none
  | .scope _ => none

/-- Calls a built-in method. -/
def callBuiltin (receiver : Value) (method : String) (arguments : List Value) :
    Except EvalError Value :=
  (builtin? receiver method arguments).getD
    (.error (.notCallable (receiver.typeName ++ "." ++ method)))

end Value

end BindingLang
