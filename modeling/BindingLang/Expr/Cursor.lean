import BindingLang.Expr.ParseError
/-!
  Cursors: walking a token stream, and the parsers that do.

  A parser walks a stream with one token of lookahead. A token is asked for
  only when the one before it has been taken, so a fault of the scanner comes
  up just where a parser gets to it.
-/

namespace BindingLang

/-- A place in a token stream: the token looked at, those not asked for yet,
the error that ends the stream if one does, and how many times a token has been
asked for. -/
structure Cursor where
  current : Option Token
  rest : List Token
  failure : Option LexError
  pulled : Nat
  deriving DecidableEq, Repr

/-- Before the first token of a stream. -/
def Cursor.ofStream (stream : Token.Stream) : Cursor :=
  ⟨none, stream.tokens, stream.failure, 0⟩

/-- The token looked at, as messages write it. -/
def Cursor.found (c : Cursor) : String :=
  match c.current with
  | some token => token.describe
  | none => "end of input"

/-- Whether the token looked at is the given symbol. -/
def Cursor.isSymbol (c : Cursor) (kind : Token.Kind) (value : String) : Bool :=
  c.current.any fun token => token.isSymbol kind value

/-- Whether the token looked at is of the given kind. -/
def Cursor.isKind (c : Cursor) (kind : Token.Kind) : Bool :=
  c.current.any fun token => token.kind == kind

/-- What a parser comes to: a value or an error, with the place it stopped at,
or nothing because its fuel ran out. -/
inductive Outcome (α : Type) where
  | value (a : α) (place : Cursor)
  | error (e : ParseError) (place : Cursor)
  | exhausted

/-- A parser of `α`. -/
def Parser (α : Type) := Cursor → Outcome α

namespace Parser

variable {α β : Type}

protected def pure (a : α) : Parser α := fun c => .value a c

protected def bind (p : Parser α) (f : α → Parser β) : Parser β := fun c =>
  match p c with
  | .value a c => f a c
  | .error e c => .error e c
  | .exhausted => .exhausted

instance : Monad Parser where
  pure := Parser.pure
  bind := Parser.bind

def fail (e : ParseError) : Parser α := fun c => .error e c

def exhausted : Parser α := fun _ => .exhausted

/-- The place the parser is at. -/
def place : Parser Cursor := fun c => .value c c

/-- The result of a step that may refuse. -/
def ofExcept : Except ParseError α → Parser α
  | .ok a => Parser.pure a
  | .error e => fail e

/-- Asks for the next token. -/
def advance : Parser Unit := fun c =>
  match c.rest with
  | token :: rest => .value () ⟨some token, rest, c.failure, c.pulled + 1⟩
  | [] =>
    match c.failure with
    | some e => .error (.lex e) { c with pulled := c.pulled + 1 }
    | none => .value () { c with current := none, pulled := c.pulled + 1 }

/-- Fails at the token looked at. -/
def unexpected (expected : String) : Parser α := fun c =>
  .error (.unexpectedToken expected c.found) c

/-- Takes the given symbol. -/
def expectSymbol (kind : Token.Kind) (value : String) : Parser Unit := do
  if (← place).isSymbol kind value then advance else unexpected (kind.quote value)

/-- Takes a token of the given kind. -/
def expectKind (kind : Token.Kind) : Parser Unit := do
  if (← place).isKind kind then advance else unexpected kind.name

end Parser

end BindingLang
