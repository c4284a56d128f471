import BindingLang.Expr.Parser
/-!
  Runs: the successful parses, as a relation on token lists.

  `Run B goal ts result us` says that the parser, set to `goal` before the
  tokens `ts`, comes to `result` and leaves `us`. It has no fuel, no cursor and
  no failures: one constructor for each way in which a parsing function can
  succeed. A constructor states what the parser looks at before it takes that
  way, so that a goal leads to one result only.

  What is proved:
    1. `RunWith.suffix` — a run takes tokens from the front and leaves the rest.
    2. `RunWith.lt_of_primary`, `RunWith.lt_of_unary` — an atom and an operand take one
       token at least.
-/

namespace BindingLang

namespace Parser

/-- What a run is about: a whole expression, the tail of an operand from a
precedence up, the tighter tail of an operator's right operand, an operand, an
atom, or a list up to its closing bracket, with the opening one taken. -/
inductive Goal (N : Type) where
  | expression
  | climb (left : N) (minimum : Nat)
  | tails (operator : Token) (right : N)
  | unary
  | primary
  | items (closer : String)
  | entries

/-- What a run comes to. -/
inductive Yield (N : Type) where
  | node (node : N)
  | items (nodes : List N)
  | entries (entries : List (String × N))

/-- Whether `climb` goes on at the token. -/
def Extends (minimum : Nat) (t : Token) : Prop :=
  t.isSymbol .grouper "(" = true ∨ t.isSymbol .grouper "[" = true ∨ t.kind = .dot ∨
    (t.kind = .operator ∧ minimum ≤ t.precedence)

/-- Whether `tails` goes on at the token. -/
def Tighter (operator t : Token) : Prop :=
  startsTail t = true ∧ operator.precedence < t.precedence

/-- The constant that a token stands for by itself, or with a sign before it. -/
inductive Constant : List Token → Literal → Prop where
  | word {t : Token} {value : Literal} (kind : t.kind = .identifier)
      (reads : wordLiteral? t.value = some value) : Constant [t] value
  | string {t : Token} (kind : t.kind = .string) : Constant [t] (.string t.value)
  | integer {t : Token} {value : Literal} (kind : t.kind = .integer)
      (reads : Literal.ofDigits? "" t.value = some value) : Constant [t] value
  | decimal {t : Token} {value : Literal} (kind : t.kind = .decimal)
      (reads : Literal.ofDecimal? "" t.value = some value) : Constant [t] value

/-- Whether the token is a plus or a minus, which may be the sign of a number. -/
def IsSign (t : Token) : Prop := t.value = "+" ∨ t.value = "-"

/-- Whether the token is a number. -/
def IsNumber (t : Token) : Prop := t.kind = .integer ∨ t.kind = .decimal

/-- The constant of a sign and a number. -/
def signedNumber? (sign number : Token) : Option Literal :=
  if number.kind = .integer then Literal.ofDigits? sign.value number.value
  else Literal.ofDecimal? sign.value number.value

variable {N : Type}

/-- Whether the goal's closing symbol, where it has one of its own, is a
closing bracket. -/
def Goal.Closes : Goal N → Prop
  | .items closer => closer ∈ [")", "]", "\x7d"]
  | _ => True

/-- All entries of a map, as they are written. -/
abbrev allEntries (entries : List (String × N)) : List (String × N) := entries

/-- The successful runs of the parser, with `merge` for what becomes of the entries of a
map. -/
inductive RunWith (merge : List (String × N) → List (String × N)) (B : Builder N) :
    Goal N → List Token → Yield N → List Token → Prop where
  | empty : RunWith merge B .expression [] (.node B.empty) []
  | whole {ts us vs : List Token} {operand node : N}
      (first : RunWith merge B .unary ts (.node operand) us)
      (tail : RunWith merge B (.climb operand 0) us (.node node) vs) :
      RunWith merge B .expression ts (.node node) vs
  | stop {left : N} {minimum : Nat} {ts : List Token}
      (ends : ∀ t ∈ ts.head?, ¬ Extends minimum t) :
      RunWith merge B (.climb left minimum) ts (.node left) ts
  | call {left callee node : N} {minimum : Nat} {opener : Token} {ts us vs : List Token}
      {arguments : List N} (opens : opener.isSymbol .grouper "(" = true)
      (list : RunWith merge B (.items ")") ts (.items arguments) us)
      (builds : B.invoke left none (some arguments) = .ok callee)
      (tail : RunWith merge B (.climb callee minimum) us (.node node) vs) :
      RunWith merge B (.climb left minimum) (opener :: ts) (.node node) vs
  | index {left argument node : N} {minimum : Nat} {opener closer : Token}
      {ts us vs : List Token} (opens : opener.isSymbol .grouper "[" = true)
      (key : RunWith merge B .expression ts (.node argument) (closer :: us))
      (closes : closer.isSymbol .grouper "]" = true)
      (tail : RunWith merge B (.climb (B.index left argument) minimum) us (.node node) vs) :
      RunWith merge B (.climb left minimum) (opener :: ts) (.node node) vs
  | getter {left right node : N} {minimum : Nat} {dot : Token} {ts us vs : List Token}
      {name : String} (kind : dot.kind = .dot)
      (operand : RunWith merge B .unary ts (.node right) us)
      (splits : B.member right = .ok (.name name))
      (tail : RunWith merge B (.climb (B.getter left name) minimum) us (.node node) vs) :
      RunWith merge B (.climb left minimum) (dot :: ts) (.node node) vs
  | method {left right callee node : N} {minimum : Nat} {dot : Token} {ts us vs : List Token}
      {name : String} {arguments : List N} (kind : dot.kind = .dot)
      (operand : RunWith merge B .unary ts (.node right) us)
      (splits : B.member right = .ok (.call name arguments))
      (builds : B.invoke left (some name) (some arguments) = .ok callee)
      (tail : RunWith merge B (.climb callee minimum) us (.node node) vs) :
      RunWith merge B (.climb left minimum) (dot :: ts) (.node node) vs
  | ternary {left whenTrue whenFalse node : N} {minimum : Nat} {mark colon : Token}
      {ts us vs ws : List Token} (kind : mark.kind = .operator) (value : mark.value = "?")
      (binds : minimum ≤ mark.precedence)
      (first : RunWith merge B .expression ts (.node whenTrue) (colon :: us))
      (colons : colon.kind = .colon)
      (second : RunWith merge B .expression us (.node whenFalse) vs)
      (tail : RunWith merge B (.climb (B.ternary left whenTrue whenFalse) minimum) vs
        (.node node) ws) :
      RunWith merge B (.climb left minimum) (mark :: ts) (.node node) ws
  | binary {left operand right node : N} {minimum : Nat} {operator : Token}
      {ts us vs ws : List Token} (kind : operator.kind = .operator)
      (value : operator.value ≠ "?") (binds : minimum ≤ operator.precedence)
      (known : Symbol.isBinary operator.value = true)
      (first : RunWith merge B .unary ts (.node operand) us)
      (second : RunWith merge B (.tails operator operand) us (.node right) vs)
      (tail : RunWith merge B (.climb (B.binary left operator.value right) minimum) vs
        (.node node) ws) :
      RunWith merge B (.climb left minimum) (operator :: ts) (.node node) ws
  | looser {operator : Token} {right : N} {ts : List Token}
      (ends : ∀ t ∈ ts.head?, ¬ Tighter operator t) :
      RunWith merge B (.tails operator right) ts (.node right) ts
  | stuck {operator next : Token} {right node : N} {ts : List Token}
      (tighter : Tighter operator next)
      (step : RunWith merge B (.climb right next.precedence) (next :: ts) (.node node)
        (next :: ts)) :
      RunWith merge B (.tails operator right) (next :: ts) (.node node) (next :: ts)
  | tighter {operator next : Token} {right extended node : N} {ts us vs : List Token}
      (tighter : Tighter operator next)
      (step : RunWith merge B (.climb right next.precedence) (next :: ts) (.node extended) us)
      (moves : us.length ≤ ts.length)
      (tail : RunWith merge B (.tails operator extended) us (.node node) vs) :
      RunWith merge B (.tails operator right) (next :: ts) (.node node) vs
  | atom {t : Token} {ts us : List Token} {node : N} (kind : t.kind ≠ .operator)
      (primary : RunWith merge B .primary (t :: ts) (.node node) us) :
      RunWith merge B .unary (t :: ts) (.node node) us
  | signed {sign number : Token} {ts : List Token} {value : Literal}
      (kind : sign.kind = .operator) (sign' : IsSign sign) (number' : IsNumber number)
      (reads : signedNumber? sign number = some value) :
      RunWith merge B .unary (sign :: number :: ts) (.node (B.literal value)) ts
  | prefixed {operator : Token} {ts us vs : List Token} {operand node : N}
      (kind : operator.kind = .operator)
      (unsigned : ∀ t ∈ ts.head?, IsSign operator → ¬ IsNumber t)
      (known : Symbol.isUnary operator.value = true)
      (primary : RunWith merge B .primary ts (.node operand) us)
      (tail : RunWith merge B (.climb operand Symbol.tightest) us (.node node) vs) :
      RunWith merge B .unary (operator :: ts) (.node (B.unary operator.value node)) vs
  | this {t : Token} {ts : List Token} (kind : t.kind = .keyword) (value : t.value = "this") :
      RunWith merge B .primary (t :: ts) (.node (B.id t.value)) ts
  | constant {t : Token} {ts : List Token} {value : Literal} (reads : Constant [t] value) :
      RunWith merge B .primary (t :: ts) (.node (B.literal value)) ts
  | name {t : Token} {ts : List Token} (kind : t.kind = .identifier)
      (noWord : wordLiteral? t.value = none)
      (ends : ∀ u ∈ ts.head?, u.isSymbol .grouper "(" = false) :
      RunWith merge B .primary (t :: ts) (.node (B.id t.value)) ts
  | nameCall {t opener : Token} {ts us : List Token} {arguments : List N} {node : N}
      (kind : t.kind = .identifier) (noWord : wordLiteral? t.value = none)
      (opens : opener.isSymbol .grouper "(" = true)
      (list : RunWith merge B (.items ")") ts (.items arguments) us)
      (builds : B.invoke (B.id t.value) none (some arguments) = .ok node) :
      RunWith merge B .primary (t :: opener :: ts) (.node node) us
  | paren {opener closer : Token} {ts us : List Token} {inner : N}
      (opens : opener.isSymbol .grouper "(" = true)
      (run : RunWith merge B .expression ts (.node inner) (closer :: us))
      (closes : closer.isSymbol .grouper ")" = true) :
      RunWith merge B .primary (opener :: ts) (.node (B.paren inner)) us
  | map {opener : Token} {ts us : List Token} {entries : List (String × N)}
      (opens : opener.isSymbol .grouper "\x7b" = true)
      (list : RunWith merge B .entries ts (.entries entries) us) :
      RunWith merge B .primary (opener :: ts) (.node (B.map (merge entries))) us
  | list {opener : Token} {ts us : List Token} {items : List N}
      (opens : opener.isSymbol .grouper "[" = true)
      (list : RunWith merge B (.items "]") ts (.items items) us) :
      RunWith merge B .primary (opener :: ts) (.node (B.list items)) us
  | itemsNone {closer : String} {t : Token} {ts : List Token}
      (closes : t.isSymbol .grouper closer = true) :
      RunWith merge B (.items closer) (t :: ts) (.items []) ts
  | itemsLast {closer : String} {t : Token} {ts us : List Token} {item : N}
      (opens : ∀ u ∈ ts.head?, u.isSymbol .grouper closer = false)
      (run : RunWith merge B .expression ts (.node item) (t :: us))
      (closes : t.isSymbol .grouper closer = true) :
      RunWith merge B (.items closer) ts (.items [item]) us
  | itemsMore {closer : String} {comma : Token} {ts us vs : List Token} {item : N}
      {items : List N} (opens : ∀ u ∈ ts.head?, u.isSymbol .grouper closer = false)
      (run : RunWith merge B .expression ts (.node item) (comma :: us))
      (commas : comma.kind = .comma)
      (rest : RunWith merge B (.items closer) us (.items items) vs) :
      RunWith merge B (.items closer) ts (.items (item :: items)) vs
  | entriesNone {t : Token} {ts : List Token} (closes : t.isSymbol .grouper "\x7d" = true) :
      RunWith merge B .entries (t :: ts) (.entries []) ts
  | entriesLast {key colon t : Token} {ts us : List Token} {value : N}
      (kind : key.kind = .string) (colons : colon.kind = .colon)
      (run : RunWith merge B .expression ts (.node value) (t :: us))
      (closes : t.isSymbol .grouper "\x7d" = true) :
      RunWith merge B .entries (key :: colon :: ts) (.entries [(key.value, value)]) us
  | entriesMore {key colon comma : Token} {ts us vs : List Token} {value : N}
      {entries : List (String × N)} (kind : key.kind = .string) (colons : colon.kind = .colon)
      (run : RunWith merge B .expression ts (.node value) (comma :: us))
      (commas : comma.kind = .comma)
      (rest : RunWith merge B .entries us (.entries entries) vs) :
      RunWith merge B .entries (key :: colon :: ts) (.entries ((key.value, value) :: entries)) vs

/-- The runs of the parser itself, which merges the entries with one key. -/
abbrev Run (B : Builder N) : Goal N → List Token → Yield N → List Token → Prop :=
  RunWith mergeEntries B

namespace RunWith

variable {merge : List (String × N) → List (String × N)} {B : Builder N} {goal : Goal N}
  {result : Yield N} {ts us : List Token}

/-- What a run leaves is a rear part of the tokens. -/
theorem suffix (h : RunWith merge B goal ts result us) : us <:+ ts := by
  induction h with
  | empty | stop | looser | stuck => exact List.suffix_refl _
  | whole first tail ihf iht => exact iht.trans ihf
  | call opens list builds tail ihl iht => exact (iht.trans ihl).trans (List.suffix_cons _ _)
  | index opens key closes tail ihk iht =>
    exact ((iht.trans (List.suffix_cons _ _)).trans ihk).trans (List.suffix_cons _ _)
  | getter kind operand splits tail iho iht => exact (iht.trans iho).trans (List.suffix_cons _ _)
  | method kind operand splits builds tail iho iht =>
    exact (iht.trans iho).trans (List.suffix_cons _ _)
  | ternary kind value binds first colons second tail ihf ihs iht =>
    exact (((iht.trans ihs).trans (List.suffix_cons _ _)).trans ihf).trans (List.suffix_cons _ _)
  | binary kind value binds known first second tail ihf ihs iht =>
    exact ((iht.trans ihs).trans ihf).trans (List.suffix_cons _ _)
  | tighter tighter step moves tail ihs iht => exact iht.trans ihs
  | atom kind primary ih => exact ih
  | signed => exact (List.suffix_cons _ _).trans (List.suffix_cons _ _)
  | prefixed kind unsigned known primary tail ihp iht =>
    exact (iht.trans ihp).trans (List.suffix_cons _ _)
  | this | constant | name | itemsNone | entriesNone => exact List.suffix_cons _ _
  | nameCall kind noWord opens list builds ih =>
    exact (ih.trans (List.suffix_cons _ _)).trans (List.suffix_cons _ _)
  | paren opens run closes ih =>
    exact ((List.suffix_cons _ _).trans ih).trans (List.suffix_cons _ _)
  | map opens list ih | list opens list ih => exact ih.trans (List.suffix_cons _ _)
  | itemsLast opens run closes ih => exact (List.suffix_cons _ _).trans ih
  | itemsMore opens run commas rest ihr ihs => exact (ihs.trans (List.suffix_cons _ _)).trans ihr
  | entriesLast kind colons run closes ih =>
    exact (((List.suffix_cons _ _).trans ih).trans (List.suffix_cons _ _)).trans
      (List.suffix_cons _ _)
  | entriesMore kind colons run commas rest ihr ihs =>
    exact (((ihs.trans (List.suffix_cons _ _)).trans ihr).trans (List.suffix_cons _ _)).trans
      (List.suffix_cons _ _)

theorem length_le (h : RunWith merge B goal ts result us) : us.length ≤ ts.length :=
  h.suffix.length_le

/-- An atom takes a token at least. -/
theorem lt_of_primary (h : RunWith merge B .primary ts result us) : us.length < ts.length := by
  cases h with
  | this | constant | name => simp
  | nameCall kind noWord opens list builds => have := list.length_le; simp; omega
  | paren opens run closes => have := run.length_le; simp at this ⊢; omega
  | map opens list | list opens list => have := list.length_le; simp; omega

/-- So does an operand. -/
theorem lt_of_unary (h : RunWith merge B .unary ts result us) : us.length < ts.length := by
  cases h with
  | atom kind primary => exact primary.lt_of_primary
  | signed =>
    simp only [List.length_cons]
    omega
  | prefixed kind unsigned known primary tail =>
    have := primary.length_le
    have := tail.length_le
    simp
    omega

end RunWith

end Parser

end BindingLang
