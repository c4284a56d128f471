import BindingLang.Symbol
/-!
  Tokens: the words and symbols that an expression is written in.
-/

namespace BindingLang

/-- What a token is. -/
inductive Token.Kind where
  | string
  | identifier
  | dot
  | comma
  | colon
  | integer
  | decimal
  | operator
  | grouper
  | keyword
  deriving DecidableEq, Repr

/-- The word for a kind of token in messages. -/
def Token.Kind.name : Token.Kind → String
  | .string => "string"
  | .identifier => "identifier"
  | .dot => "dot"
  | .comma => "comma"
  | .colon => "colon"
  | .integer => "integer"
  | .decimal => "decimal"
  | .operator => "operator"
  | .grouper => "grouper"
  | .keyword => "keyword"

/-- A token. The value of a string is its content; that of every other token
is the text it is written as. Only operators, brackets and the dot have a
precedence other than zero. -/
structure Token where
  kind : Token.Kind
  value : String
  precedence : Nat
  deriving DecidableEq, Repr

/-- A kind and a value, as messages write them. -/
def Token.Kind.quote (kind : Token.Kind) (value : String) : String :=
  kind.name ++ " '" ++ value ++ "'"

/-- The token as messages write it. -/
def Token.describe (t : Token) : String := t.kind.quote t.value

/-- Whether the token is the symbol `value` of the given kind. -/
def Token.isSymbol (t : Token) (kind : Token.Kind) (value : String) : Bool :=
  t.kind == kind && t.value == value

end BindingLang
