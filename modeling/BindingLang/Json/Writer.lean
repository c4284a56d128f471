import BindingLang.Binary64.Shortest
import BindingLang.Json.Basic
/-!
  Writing JSON text, on one line or indented by two spaces.

  Floats are written with the fewest digits that read back, always with a point
  or an exponent: positionally from `10^-5` up to `10^16`, and with an exponent
  beyond.
-/

namespace BindingLang

namespace Json

/-- A float is written positionally below ten to this power. -/
def positionalBelow : Int := 16

/-- A float is written positionally if its first digit comes after fewer
zeros than this. -/
def positionalZeros : Int := 5

/-- A decimal with an exponent. -/
def scientific (d : Binary64.Decimal) : List Char :=
  let ds := Binary64.digits d.significand
  let exponent := (toString (d.exponent + ds.length - 1)).toList
  match ds with
  | [digit] => digit :: 'e' :: exponent
  | digit :: places => digit :: '.' :: places ++ 'e' :: exponent
  | [] => []

/-- A decimal as the text of a number. -/
def decimalText (d : Binary64.Decimal) : List Char :=
  let order := (Binary64.digits d.significand).length + d.exponent
  if 0 ≤ d.exponent ∧ order ≤ positionalBelow then d.positional ++ ['.', '0']
  else if -positionalZeros < order ∧ order ≤ positionalBelow then d.positional
  else scientific d

/-- The text of a float; what is infinite or no number has none. -/
def floatText (x : Float) : String :=
  match Binary64.finite? x with
  | some e => String.ofList ((if e.negative then ['-'] else []) ++ decimalText e.shortest)
  | none => "null"

/-- A hexadecimal digit. -/
def hexChar (n : Nat) : Char := (Nat.toDigits 16 n).headD '0'

/-- A character within a string. -/
def escapeChar (c : Char) : List Char :=
  if c = '"' then ['\\', '"']
  else if c = '\\' then ['\\', '\\']
  else if c = '\n' then ['\\', 'n']
  else if c = '\r' then ['\\', 'r']
  else if c = '\t' then ['\\', 't']
  else if c.toNat = 8 then ['\\', 'b']
  else if c.toNat = 12 then ['\\', 'f']
  else if c.toNat < 32 then ['\\', 'u', '0', '0', hexChar (c.toNat / 16), hexChar (c.toNat % 16)]
  else [c]

/-- A string in quotes. -/
def quoted (s : String) : String :=
  String.ofList ('"' :: s.toList.flatMap escapeChar ++ ['"'])

/-- The text of a truth value. -/
def booleanText (b : Bool) : String := if b then "true" else "false"

mutual

/-- The document on one line. -/
def compact : Json → String
  | .array items => "[" ++ ",".intercalate (compactItems items) ++ "]"
  | .object entries => "\x7b" ++ ",".intercalate (compactEntries entries) ++ "\x7d"
  | .null => "null"
  | .boolean b => booleanText b
  | .integer n => toString n.toInt
  | .float x => floatText x
  | .string s => quoted s
termination_by structural document => document

def compactItems : List Json → List String
  | [] => []
  | item :: items => compact item :: compactItems items
termination_by structural items => items

def compactEntries : List (String × Json) → List String
  | [] => []
  | (key, value) :: entries => (quoted key ++ ":" ++ compact value) :: compactEntries entries
termination_by structural entries => entries

end

/-- The start of a line at a depth. -/
def indent (depth : Nat) : String := String.ofList ('\n' :: List.replicate (2 * depth) ' ')

/-- The parts between brackets, each on a line of its own one level deeper;
without parts the brackets close up. -/
def block (opener closer : String) (depth : Nat) (parts : List String) : String :=
  if parts.isEmpty then opener ++ closer
  else
    opener ++ indent (depth + 1) ++ ("," ++ indent (depth + 1)).intercalate parts ++
      indent depth ++ closer

mutual

/-- The document over several lines. -/
def pretty (depth : Nat) : Json → String
  | .array items => block "[" "]" depth (prettyItems depth items)
  | .object entries => block "\x7b" "\x7d" depth (prettyEntries depth entries)
  | .null => "null"
  | .boolean b => booleanText b
  | .integer n => toString n.toInt
  | .float x => floatText x
  | .string s => quoted s
termination_by structural document => document

def prettyItems (depth : Nat) : List Json → List String
  | [] => []
  | item :: items => pretty (depth + 1) item :: prettyItems depth items
termination_by structural items => items

def prettyEntries (depth : Nat) : List (String × Json) → List String
  | [] => []
  | (key, value) :: entries =>
    (quoted key ++ ": " ++ pretty (depth + 1) value) :: prettyEntries depth entries
termination_by structural entries => entries

end

/-- The text of a document, on several lines if `indented`. -/
def toText (indented : Bool) (document : Json) : String :=
  if indented then pretty 0 document else compact document

end Json

end BindingLang
