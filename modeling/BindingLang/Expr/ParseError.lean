import BindingLang.Token.Scanner
/-!
  The errors of parsing, and how they are told.
-/

namespace BindingLang

/-- Why a source is no expression. The first fault ends the parse. -/
inductive ParseError where
  /-- The scanner failed on the token asked for. -/
  | lex (e : LexError)
  /-- A token does not fit what must stand here. -/
  | unexpectedToken (expected found : String)
  /-- A reserved word that starts no expression. -/
  | unexpectedKeyword (word : String)
  | unrecognizedKeyword (word : String)
  /-- Neither a name nor the call of a name stands after a dot. -/
  | expectedIdentifier (found : String)
  /-- An operator that stands between no operands. -/
  | unknownOperator (operator : String)
  /-- A call without an argument list. -/
  | invalidArguments
  | invalidNumber (text : String)
  /-- Tokens are left over after a whole expression. -/
  | trailingInput (found : String)
  deriving DecidableEq, Repr

def ParseError.message : ParseError → String
  | .lex e => e.message
  | .unexpectedToken expected found => "expected " ++ expected ++ ", found " ++ found
  | .unexpectedKeyword word => "unexpected keyword: " ++ word
  | .unrecognizedKeyword word => "unrecognized keyword: " ++ word
  | .expectedIdentifier found => "expected identifier after '.', found " ++ found
  | .unknownOperator operator => "unknown operator: " ++ operator
  | .invalidArguments =>
    "invalid arguments: a call needs an argument list, use an empty one for no arguments"
  | .invalidNumber text => "invalid number literal: " ++ text
  | .trailingInput found => "unexpected " ++ found ++ " after end of expression"

end BindingLang
