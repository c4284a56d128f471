/-!
  The symbols of the language: how tightly each binds, and what it may stand
  for.

  Precedences grow with tightness. A symbol that opens a postfix (a call, an
  index, a member read) binds tightest; the symbols that close something, and
  those that only separate, bind nothing.
-/

namespace BindingLang

namespace Symbol

/-- How tightly `(`, `[`, `.` and `{` bind to the operand before them. -/
def tightest : Nat := 11

/-- How tightly a symbol binds, for the symbols that have a place in the order. -/
def precedence? (symbol : String) : Option Nat :=
  if symbol ∈ ["!", ":", ",", ")", "]", "\x7d"] then some 0
  else if symbol = "?" then some 1
  else if symbol = "||" then some 2
  else if symbol = "&&" then some 3
  else if symbol = "|" then some 4
  else if symbol = "^" then some 5
  else if symbol = "&" then some 6
  else if symbol ∈ ["!=", "==", "!==", "==="] then some 7
  else if symbol ∈ [">=", ">", "<=", "<"] then some 8
  else if symbol ∈ ["+", "-"] then some 9
  else if symbol ∈ ["%", "/", "*"] then some 10
  else if symbol ∈ ["(", "[", ".", "\x7b"] then some tightest
  else none

/-- How tightly a symbol binds, zero for one without a place. -/
def precedence (symbol : String) : Nat := (precedence? symbol).getD 0

/-- The characters of operators. -/
def operatorChars : List Char :=
  ['+', '-', '*', '/', '!', '&', '%', '<', '=', '>', '?', '^', '|']

/-- The brackets. -/
def grouperChars : List Char := ['(', ')', '[', ']', '{', '}']

/-- The operators of two characters. -/
def pairs : List String := ["==", "!=", "<=", ">=", "||", "&&"]

/-- The operators of three characters. -/
def triples : List String := ["===", "!=="]

/-- The operators that may stand before an operand. -/
def unaryOperators : List String := ["+", "-", "!"]

/-- The operators that may stand between two operands. -/
def binaryOperators : List String :=
  ["+", "-", "*", "/", "%", "^", "==", "!=", ">", "<", ">=", "<=", "||", "&&", "&", "===",
    "!==", "|"]

/-- The reserved words. -/
def keywords : List String := ["this"]

def isKeyword (word : String) : Bool := keywords.contains word

def isUnary (symbol : String) : Bool := unaryOperators.contains symbol

def isBinary (symbol : String) : Bool := binaryOperators.contains symbol

/-- Whether an identifier may start with the character. -/
def isNameStart (c : Char) : Bool := c.isAlpha || c == '_' || c == '$'

/-- Whether an identifier may go on with the character. -/
def isNameChar (c : Char) : Bool := c.isAlphanum || c == '_' || c == '$'

end Symbol

end BindingLang
