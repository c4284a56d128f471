import BindingLang.Expr.Builder
import BindingLang.Expr.Cursor
/-!
  Parsing: from a token stream to a tree, by precedence climbing.

  `climb` extends an operand by whatever binds at least as tightly as a given
  precedence, and `binary` first lets the right operand take everything that
  binds tighter than its operator.

  The recursion is bounded by fuel. Between two tokens only a few calls are
  made, so a bound linear in the number of tokens suffices, and `parse` takes
  one.
-/

namespace BindingLang

namespace Parser

variable {N : Type}

/-- Takes a number as a constant. -/
def constant (B : Builder N) (text : String) (value : Option Literal) : Parser N := do
  match value with
  | some value =>
    advance
    pure (B.literal value)
  | none => fail (.invalidNumber text)

/-- The constant that a word stands for. -/
def wordLiteral? (word : String) : Option Literal :=
  if word = "true" then some (.boolean true)
  else if word = "false" then some (.boolean false)
  else if word = "null" then some .null
  else none

/-- Binds `key` to `node`: in place of the entry it had, or else at the end. -/
def putEntry (key : String) (node : N) : List (String × N) → List (String × N)
  | [] => [(key, node)]
  | (other, old) :: rest =>
    if other = key then (key, node) :: rest else (other, old) :: putEntry key node rest

/-- The entries of a map: of those with one key the last value stands, at the
place of the first. -/
def mergeEntries (entries : List (String × N)) : List (String × N) :=
  entries.foldl (fun merged entry => putEntry entry.1 entry.2 merged) []

/-- The node of a dot and what stands after it. -/
def memberOf (B : Builder N) (left : N) : Option N → Parser N
  | none => do fail (.expectedIdentifier (← place).found)
  | some right =>
    match B.member right with
    | .ok (.name name) => pure (B.getter left name)
    | .ok (.call method arguments) => ofExcept (B.invoke left (some method) (some arguments))
    | .error kind => fail (.expectedIdentifier kind)

/-- Whether an operand's tail may start with the token: an operator or a
postfix. -/
def startsTail (token : Token) : Bool :=
  token.kind == .operator || token.kind == .dot || token.kind == .grouper

section Grammar

variable (B : Builder N)

mutual

/-- An expression, empty where the stream has ended. -/
def expression : Nat → Parser N
  | 0 => exhausted
  | fuel + 1 => do
    if (← place).current.isNone then pure B.empty
    else
      match ← unary fuel with
      | some operand => climb fuel operand 0
      | none => unexpected "expression"
termination_by structural fuel => fuel

/-- Extends `left` by postfixes, and by operators of precedence `minimum` and
up. -/
def climb : Nat → N → Nat → Parser N
  | 0, _, _ => exhausted
  | fuel + 1, left, minimum => do
    match (← place).current with
    | none => pure left
    | some token =>
      if token.isSymbol .grouper "(" then
        let arguments ← arguments fuel
        let node ← ofExcept (B.invoke left none arguments)
        climb fuel node minimum
      else if token.isSymbol .grouper "[" then
        let argument ← subscript fuel
        climb fuel (B.index left argument) minimum
      else if token.kind = .dot then
        advance
        let right ← unary fuel
        let node ← memberOf B left right
        climb fuel node minimum
      else if token.kind = .operator ∧ minimum ≤ token.precedence then
        let node ← if token.value = "?" then ternary fuel left else binary fuel left token
        climb fuel node minimum
      else pure left
termination_by structural fuel => fuel

/-- The operator looked at, with its right operand. -/
def binary : Nat → N → Token → Parser N
  | 0, _, _ => exhausted
  | fuel + 1, left, operator => do
    if !Symbol.isBinary operator.value then fail (.unknownOperator operator.value)
    else
      advance
      match ← unary fuel with
      | some right =>
        let right ← tails fuel operator right
        pure (B.binary left operator.value right)
      | none => unexpected "expression"
termination_by structural fuel => fuel

/-- Extends the right operand of `operator` by whatever binds tighter. -/
def tails : Nat → Token → N → Parser N
  | 0, _, _ => exhausted
  | fuel + 1, operator, right => do
    match (← place).current with
    | none => pure right
    | some next =>
      if startsTail next ∧ operator.precedence < next.precedence then
        let before := (← place).pulled
        let right ← climb fuel right next.precedence
        if (← place).pulled = before then pure right else tails fuel operator right
      else pure right
termination_by structural fuel => fuel

/-- An operand: a sign and its number, an operator and its operand, or a
primary; none where no operand starts. -/
def unary : Nat → Parser (Option N)
  | 0 => exhausted
  | fuel + 1 => do
    match (← place).current with
    | none => pure none
    | some token =>
      if token.kind ≠ .operator then primary fuel
      else
        advance
        let signed := token.value = "+" ∨ token.value = "-"
        match (← place).current with
        | some number =>
          if signed ∧ number.kind = .integer then
            some <$> constant B (token.value ++ number.value)
              (Literal.ofDigits? token.value number.value)
          else if signed ∧ number.kind = .decimal then
            some <$> constant B (token.value ++ number.value)
              (Literal.ofDecimal? token.value number.value)
          else prefixed fuel token
        | none => prefixed fuel token
termination_by structural fuel => fuel

/-- The operand of an operator that has been taken. -/
def prefixed : Nat → Token → Parser (Option N)
  | 0, _ => exhausted
  | fuel + 1, operator => do
    if !Symbol.isUnary operator.value then
      fail (.unexpectedToken "unary operator" operator.describe)
    else
      match ← primary fuel with
      | some operand =>
        let operand ← climb fuel operand Symbol.tightest
        pure (some (B.unary operator.value operand))
      | none => unexpected "expression"
termination_by structural fuel => fuel

/-- The choice between two expressions. -/
def ternary : Nat → N → Parser N
  | 0, _ => exhausted
  | fuel + 1, condition => do
    expectSymbol .operator "?"
    let whenTrue ← expression fuel
    expectKind .colon
    let whenFalse ← expression fuel
    pure (B.ternary condition whenTrue whenFalse)
termination_by structural fuel => fuel

/-- An atom; none where no atom starts. -/
def primary : Nat → Parser (Option N)
  | 0 => exhausted
  | fuel + 1 => do
    match (← place).current with
    | none => pure none
    | some token =>
      match token.kind with
      | .keyword =>
        if token.value = "this" then
          advance
          pure (some (B.id token.value))
        else if Symbol.isKeyword token.value then fail (.unexpectedKeyword token.value)
        else fail (.unrecognizedKeyword token.value)
      | .identifier =>
        advance
        match wordLiteral? token.value with
        | some value => pure (some (B.literal value))
        | none =>
          match ← arguments fuel with
          | some arguments =>
            some <$> ofExcept (B.invoke (B.id token.value) none (some arguments))
          | none => pure (some (B.id token.value))
      | .string =>
        advance
        pure (some (B.literal (.string token.value)))
      | .integer => some <$> constant B token.value (Literal.ofDigits? "" token.value)
      | .decimal => some <$> constant B token.value (Literal.ofDecimal? "" token.value)
      | .grouper =>
        if token.value = "(" then
          advance
          let inner ← expression fuel
          expectSymbol .grouper ")"
          pure (some (B.paren inner))
        else if token.value = "\x7b" then
          let entries ← entries fuel
          pure (some (B.map (mergeEntries entries)))
        else if token.value = "[" then
          let items ← items fuel "]"
          pure (some (B.list items))
        else pure none
      | .colon => unexpected "expression"
      | .dot | .comma | .operator => pure none
termination_by structural fuel => fuel

/-- An argument list in parentheses; none where no parenthesis opens. -/
def arguments : Nat → Parser (Option (List N))
  | 0 => exhausted
  | fuel + 1 => do
    if (← place).isSymbol .grouper "(" then some <$> items fuel ")" else pure none
termination_by structural fuel => fuel

/-- The key of an index, with its brackets. -/
def subscript : Nat → Parser N
  | 0 => exhausted
  | fuel + 1 => do
    expectSymbol .grouper "["
    let argument ← expression fuel
    expectSymbol .grouper "]"
    pure argument
termination_by structural fuel => fuel

/-- The items from an opening bracket or a comma to the closing bracket, which
may follow a comma. -/
def items : Nat → String → Parser (List N)
  | 0, _ => exhausted
  | fuel + 1, closer => do
    advance
    if (← place).isSymbol .grouper closer then
      expectSymbol .grouper closer
      pure []
    else
      let item ← expression fuel
      if (← place).isKind .comma then
        let rest ← items fuel closer
        pure (item :: rest)
      else
        expectSymbol .grouper closer
        pure [item]
termination_by structural fuel => fuel

/-- The entries from an opening brace or a comma to the closing brace, which
may follow a comma. -/
def entries : Nat → Parser (List (String × N))
  | 0 => exhausted
  | fuel + 1 => do
    advance
    if (← place).isSymbol .grouper "\x7d" then
      expectSymbol .grouper "\x7d"
      pure []
    else
      match (← place).current with
      | some key =>
        if key.kind = .string then
          advance
          expectKind .colon
          let node ← expression fuel
          if (← place).isKind .comma then
            let rest ← entries fuel
            pure ((key.value, node) :: rest)
          else
            expectSymbol .grouper "\x7d"
            pure [(key.value, node)]
        else unexpected "string key"
      | none => unexpected "string key"
termination_by structural fuel => fuel

end

/-- One expression and the end of the stream. -/
def complete (fuel : Nat) : Parser N := do
  advance
  let node ← expression B fuel
  match (← place).current with
  | some token => fail (.trailingInput token.describe)
  | none => pure node

end Grammar

/-- Fuel for a stream of `count` tokens: between two tokens the recursion goes
down a few steps only. -/
def fuelFor (count : Nat) : Nat := 8 * (count + 1)

/-- The parse of a whole stream. -/
def runStream (B : Builder N) (stream : Token.Stream) : Outcome N :=
  complete B (fuelFor stream.tokens.length) (Cursor.ofStream stream)

end Parser

/-- The tree that a source stands for, as `B` builds it. (The fuel always
suffices, so the last case never comes up.) -/
def parse {N : Type} (B : Builder N) (source : String) : Except ParseError N :=
  match Parser.runStream B (Token.Stream.ofText source) with
  | .value node _ => .ok node
  | .error e _ => .error e
  | .exhausted => .error (.unexpectedToken "expression" "end of input")

namespace Expr

/-- The plain tree of a source. -/
def parse (source : String) : Except ParseError Expr := BindingLang.parse builder source

end Expr

namespace Formula

/-- The formula of a source. -/
def parse (source : String) : Except ParseError Formula := BindingLang.parse builder source

end Formula

end BindingLang
