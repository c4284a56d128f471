import BindingLang.Expr.Parser
import BindingLang.Proofs.Parser.Cursor
/-!
  Locality: a parse is settled by the tokens that it has asked for.

  Two places agree up to the `k`-th token if all that can be seen of the stream until it
  has been asked for is the same at both: the token looked at, the next tokens, and, where
  the stream ends before, how it ends. `Local k p` says that from such places `p` comes to
  the same, as long as it asks for no more than `k` tokens; of what it comes to with more
  nothing is said.

  The lemmas below carry this through the combinators that the grammar is written in;
  `AllLocal` says it of all parsing functions together, and one lemma for each function
  makes the step to the next fuel.

  What is proved:
    1. `allLocal` — with any fuel every parsing function is local.
    2. `local_complete` — and so is the parse of a whole stream.
-/

namespace BindingLang

namespace Cursor

variable {k : Nat} {c c' d e : Cursor}

/-- Whether nothing that is different at the two places can be seen before more than `k`
tokens have been asked for. -/
structure Agrees (k : Nat) (c c' : Cursor) : Prop where
  current : c.current = c'.current
  pulled : c.pulled = c'.pulled
  rest : c.rest.take (k - c.pulled) = c'.rest.take (k - c.pulled)
  failure : c.rest.length < k - c.pulled → c.failure = c'.failure

namespace Agrees

theorem found (h : c.Agrees k c') : c.found = c'.found := by
  rw [Cursor.found, Cursor.found, h.current]

theorem isSymbol (h : c.Agrees k c') (kind : Token.Kind) (value : String) :
    c.isSymbol kind value = c'.isSymbol kind value := by
  rw [Cursor.isSymbol, Cursor.isSymbol, h.current]

theorem isKind (h : c.Agrees k c') (kind : Token.Kind) : c.isKind kind = c'.isKind kind := by
  rw [Cursor.isKind, Cursor.isKind, h.current]

end Agrees

/-- Whether the parse of a stream may go on from one place to the other: behind the end of
a stream that fails there is no place. -/
structure Onward (c d : Cursor) : Prop where
  pulled : c.pulled ≤ d.pulled
  failure : d.failure = c.failure
  within : c.failure ≠ none → d.pulled + d.rest.length = c.pulled + c.rest.length

namespace Onward

theorem refl (c : Cursor) : c.Onward c := ⟨Nat.le_refl _, rfl, fun _ => rfl⟩

theorem trans (h : c.Onward d) (h' : d.Onward e) : c.Onward e where
  pulled := Nat.le_trans h.pulled h'.pulled
  failure := h'.failure.trans h.failure
  within hfailure := (h'.within (h.failure ▸ hfailure)).trans (h.within hfailure)

end Onward

end Cursor

open Cursor

/-- Whether a parse that started at `c` and came to the first outcome has gone onward, and
comes to the second outcome too where both places agree up to the `k`-th token. -/
def Outcome.Settles {α : Type} (k : Nat) (c : Cursor) : Outcome α → Outcome α → Prop
  | .value a d, other => c.Onward d ∧
    (d.pulled ≤ k → ∃ d', other = .value a d' ∧ d.Agrees k d')
  | .error e d, other => c.pulled ≤ d.pulled ∧ ((∀ fault, e ≠ .lex fault) → c.Onward d) ∧
    (d.pulled ≤ k → ∃ d', other = .error e d' ∧ d'.pulled = d.pulled)
  | .exhausted, _ => True

namespace Parser

variable {α β : Type} {k : Nat}

/-- Whether the parser comes to the same at places that agree, before it has asked for
more than `k` tokens. -/
def Local (k : Nat) (p : Parser α) : Prop :=
  ∀ c c', c.Agrees k c' → (p c).Settles k c (p c')

namespace Local

theorem pure' (a : α) : Local k (pure a) :=
  fun c c' h => ⟨.refl c, fun _ => ⟨c', rfl, h⟩⟩

theorem fail (e : ParseError) : Local k (Parser.fail e : Parser α) :=
  fun c c' h => ⟨Nat.le_refl _, fun _ => .refl c, fun _ => ⟨c', rfl, h.pulled.symm⟩⟩

theorem exhausted : Local k (Parser.exhausted : Parser α) := fun _ _ _ => trivial

theorem unexpected (expected : String) : Local k (Parser.unexpected expected : Parser α) := by
  intro c c' h
  refine ⟨Nat.le_refl _, fun _ => .refl c, fun _ => ⟨c', ?_, h.pulled.symm⟩⟩
  rw [unexpected_apply, h.found]

theorem ofExcept (result : Except ParseError α) : Local k (Parser.ofExcept result) := by
  cases result with
  | ok a => exact pure' a
  | error e => exact fail e

/-- What follows a step has been reached in time if it ends in time. -/
theorem bind {p : Parser α} {f : α → Parser β} (hp : Local k p) (hf : ∀ a, Local k (f a)) :
    Local k (p >>= f) := by
  intro c c' h
  have hfirst := hp c c' h
  rw [bind_apply, bind_apply]
  cases hrun : p c with
  | exhausted => trivial
  | error e d =>
    rw [hrun] at hfirst
    obtain ⟨hle, honward, hsame⟩ := hfirst
    refine ⟨hle, honward, ?_⟩
    intro hd
    obtain ⟨d', hd', hpulled⟩ := hsame hd
    rw [hd']
    exact ⟨d', rfl, hpulled⟩
  | value a d =>
    rw [hrun] at hfirst
    obtain ⟨honward, hsame⟩ := hfirst
    dsimp only
    -- Onward it goes from any place, also from one that has asked for more.
    have hself := hf a d d ⟨rfl, rfl, rfl, fun _ => rfl⟩
    cases hrest : f a d with
    | exhausted => trivial
    | value b d₂ =>
      rw [hrest] at hself
      refine ⟨honward.trans hself.1, ?_⟩
      intro hd₂
      obtain ⟨d', hd', hagrees⟩ := hsame (Nat.le_trans hself.1.pulled hd₂)
      have hsecond := hf a d d' hagrees
      rw [hrest] at hsecond
      rw [hd']
      exact hsecond.2 hd₂
    | error e d₂ =>
      rw [hrest] at hself
      refine ⟨Nat.le_trans honward.pulled hself.1, fun he => honward.trans (hself.2.1 he), ?_⟩
      intro hd₂
      obtain ⟨d', hd', hagrees⟩ := hsame (Nat.le_trans hself.1 hd₂)
      have hsecond := hf a d d' hagrees
      rw [hrest] at hsecond
      rw [hd']
      exact hsecond.2.2 hd₂

/-- A step that looks at the place may see what agrees. -/
theorem look {f : Cursor → Parser α} (hsees : ∀ c c', c.Agrees k c' → f c' = f c)
    (hf : ∀ c, Local k (f c)) : Local k (place >>= f) := by
  intro c c' h
  rw [place_bind_apply, place_bind_apply, hsees c c' h]
  exact hf c c c' h

theorem map' {f : α → β} {p : Parser α} (hp : Local k p) : Local k (f <$> p) :=
  hp.bind fun a => pure' (f a)

theorem ite' {condition : Prop} [Decidable condition] {p q : Parser α} (hp : Local k p)
    (hq : Local k q) : Local k (if condition then p else q) := by
  split
  · exact hp
  · exact hq

/-- The next token is among those up to the `k`-th, or else the stream ends as the other. -/
theorem advance : Local k Parser.advance := by
  intro c c' h
  obtain ⟨current, rest, failure, pulled⟩ := c
  obtain ⟨current', rest', failure', pulled'⟩ := c'
  obtain ⟨rfl, rfl, hrest, hfailure⟩ := h
  dsimp only at hrest hfailure
  cases rest with
  | cons t rest =>
    have hwithin : pulled + 1 + rest.length = pulled + (t :: rest).length := by
      rw [List.length_cons]
      omega
    refine ⟨⟨Nat.le_succ _, rfl, fun _ => hwithin⟩, ?_⟩
    intro hpulled
    have hle : pulled + 1 ≤ k := hpulled
    obtain ⟨m, hm⟩ : ∃ m, k - pulled = m + 1 := ⟨k - (pulled + 1), by omega⟩
    have hm' : k - (pulled + 1) = m := by omega
    rw [hm] at hrest hfailure
    cases rest' with
    | nil => cases hrest
    | cons u rest' =>
      rw [List.take_succ_cons, List.take_succ_cons] at hrest
      obtain ⟨rfl, hbehind⟩ := List.cons.inj hrest
      refine ⟨_, rfl, rfl, rfl, ?_, ?_⟩
      · show rest.take (k - (pulled + 1)) = rest'.take (k - (pulled + 1))
        rw [hm']
        exact hbehind
      · intro hlt
        have hlt' : rest.length < k - (pulled + 1) := hlt
        exact hfailure (by rw [List.length_cons]; omega)
  | nil =>
    have hends (hpulled : pulled + 1 ≤ k) : rest' = [] ∧ failure = failure' := by
      have hpos : 0 < k - pulled := by omega
      rw [List.take_nil, eq_comm, List.take_eq_nil_iff] at hrest
      exact ⟨hrest.resolve_left (Nat.ne_of_gt hpos), hfailure hpos⟩
    cases failure with
    | none =>
      refine ⟨⟨Nat.le_succ _, rfl, fun hne => absurd rfl hne⟩, ?_⟩
      intro hpulled
      obtain ⟨rfl, rfl⟩ := hends hpulled
      exact ⟨_, rfl, rfl, rfl, rfl, fun _ => rfl⟩
    | some e =>
      refine ⟨Nat.le_succ _, fun he => absurd rfl (he e), ?_⟩
      intro hpulled
      obtain ⟨rfl, rfl⟩ := hends hpulled
      exact ⟨_, rfl, rfl⟩

theorem expectSymbol (kind : Token.Kind) (value : String) :
    Local k (Parser.expectSymbol kind value) := by
  refine look (fun c c' h => ?_) fun c => ite' advance (unexpected _)
  rw [h.isSymbol]

theorem expectKind (kind : Token.Kind) : Local k (Parser.expectKind kind) := by
  refine look (fun c c' h => ?_) fun c => ite' advance (unexpected _)
  rw [h.isKind]

variable {N : Type} {B : Builder N}

theorem constant (text : String) (value : Option Literal) :
    Local k (Parser.constant B text value) := by
  cases value with
  | none => exact fail _
  | some value => exact advance.bind fun _ => pure' _

theorem memberOf (left : N) (right : Option N) : Local k (Parser.memberOf B left right) := by
  cases right with
  | none =>
    refine look (fun c c' h => ?_) fun c => fail _
    rw [h.found]
  | some operand =>
    rw [Parser.memberOf]
    split
    · exact pure' _
    · exact ofExcept _
    · exact fail _

end Local

variable {N : Type} {B : Builder N}

/-- Whether all parsing functions are local with the fuel `n`. -/
structure AllLocal (B : Builder N) (k n : Nat) : Prop where
  expression : Local k (expression B n)
  climb : ∀ left minimum, Local k (climb B n left minimum)
  binary : ∀ left operator, Local k (binary B n left operator)
  tails : ∀ operator right, Local k (tails B n operator right)
  unary : Local k (unary B n)
  prefixed : ∀ operator, Local k (prefixed B n operator)
  ternary : ∀ condition, Local k (ternary B n condition)
  primary : Local k (primary B n)
  arguments : Local k (arguments B n)
  subscript : Local k (subscript B n)
  items : ∀ closer, Local k (items B n closer)
  entries : Local k (entries B n)

section Steps

variable {n : Nat} (ih : AllLocal B k n)

include ih

theorem local_expression : Local k (expression B (n + 1)) := by
  rw [expression]
  refine .look (fun c c' h => by rw [h.current]) fun c => .ite' (.pure' _) ?_
  refine ih.unary.bind fun operand => ?_
  cases operand with
  | none => exact .unexpected _
  | some operand => exact ih.climb operand 0

theorem local_climb (left : N) (minimum : Nat) : Local k (climb B (n + 1) left minimum) := by
  rw [climb]
  refine .look (fun c c' h => by rw [h.current]) fun c => ?_
  cases c.current with
  | none => exact .pure' left
  | some token =>
    refine .ite' ?call (.ite' ?index (.ite' ?member (.ite' ?operator (.pure' left))))
    case call =>
      refine ih.arguments.bind fun nodes => ?_
      exact (Local.ofExcept _).bind fun node => ih.climb node minimum
    case index => exact ih.subscript.bind fun key => ih.climb _ minimum
    case member =>
      refine Local.advance.bind fun _ => ih.unary.bind fun right => ?_
      exact (Local.memberOf left right).bind fun node => ih.climb node minimum
    case operator =>
      exact .ite' ((ih.ternary left).bind fun node => ih.climb node minimum)
        ((ih.binary left token).bind fun node => ih.climb node minimum)

theorem local_binary (left : N) (operator : Token) :
    Local k (binary B (n + 1) left operator) := by
  rw [binary]
  refine .ite' (.fail _) (Local.advance.bind fun _ => ih.unary.bind fun operand => ?_)
  cases operand with
  | none => exact .unexpected _
  | some operand => exact (ih.tails operator operand).bind fun right => .pure' _

theorem local_tails (operator : Token) (right : N) : Local k (tails B (n + 1) operator right) := by
  rw [tails]
  refine .look (fun c c' h => by rw [h.current]) fun c => ?_
  cases c.current with
  | none => exact .pure' right
  | some next =>
    refine .ite' (.look (fun c c' h => by rw [h.pulled]) fun before => ?_) (.pure' right)
    refine (ih.climb right next.precedence).bind fun node => ?_
    exact .look (fun c c' h => by rw [h.pulled]) fun after => .ite' (.pure' node)
      (ih.tails operator node)

theorem local_unary : Local k (unary B (n + 1)) := by
  rw [unary]
  refine .look (fun c c' h => by rw [h.current]) fun c => ?_
  cases c.current with
  | none => exact .pure' none
  | some token =>
    refine .ite' ih.primary (Local.advance.bind fun _ => ?_)
    refine .look (fun c c' h => by rw [h.current]) fun c => ?_
    cases c.current with
    | none => exact ih.prefixed token
    | some number =>
      exact .ite' (Local.constant _ _).map'
        (.ite' (Local.constant _ _).map' (ih.prefixed token))

theorem local_prefixed (operator : Token) : Local k (prefixed B (n + 1) operator) := by
  rw [prefixed]
  refine .ite' (.fail _) (ih.primary.bind fun operand => ?_)
  cases operand with
  | none => exact .unexpected _
  | some operand => exact (ih.climb operand Symbol.tightest).bind fun node => .pure' _

theorem local_ternary (condition : N) : Local k (ternary B (n + 1) condition) := by
  rw [ternary]
  refine (Local.expectSymbol _ _).bind fun _ => ih.expression.bind fun whenTrue => ?_
  exact (Local.expectKind _).bind fun _ => ih.expression.bind fun whenFalse => .pure' _

theorem local_primary : Local k (primary B (n + 1)) := by
  rw [primary]
  refine .look (fun c c' h => by rw [h.current]) fun c => ?_
  cases c.current with
  | none => exact .pure' none
  | some token =>
    dsimp only
    cases token.kind with
    | keyword =>
      exact .ite' (Local.advance.bind fun _ => .pure' _) (.ite' (.fail _) (.fail _))
    | identifier =>
      refine Local.advance.bind fun _ => ?_
      cases wordLiteral? token.value with
      | some value => exact .pure' _
      | none =>
        refine ih.arguments.bind fun nodes => ?_
        cases nodes with
        | some nodes => exact (Local.ofExcept _).map'
        | none => exact .pure' _
    | string => exact Local.advance.bind fun _ => .pure' _
    | integer => exact (Local.constant _ _).map'
    | decimal => exact (Local.constant _ _).map'
    | grouper =>
      refine .ite' ?paren (.ite' ?map (.ite' ?list (.pure' none)))
      case paren =>
        refine Local.advance.bind fun _ => ih.expression.bind fun inner => ?_
        exact (Local.expectSymbol _ _).bind fun _ => .pure' _
      case map => exact ih.entries.bind fun entries => .pure' _
      case list => exact (ih.items _).bind fun items => .pure' _
    | colon => exact .unexpected _
    | dot | comma | operator => exact .pure' none

theorem local_arguments : Local k (arguments B (n + 1)) := by
  rw [arguments]
  refine .look (fun c c' h => by rw [h.isSymbol]) fun c => ?_
  exact .ite' (ih.items _).map' (.pure' none)

theorem local_subscript : Local k (subscript B (n + 1)) := by
  rw [subscript]
  refine (Local.expectSymbol _ _).bind fun _ => ih.expression.bind fun key => ?_
  exact (Local.expectSymbol _ _).bind fun _ => .pure' key

theorem local_items (closer : String) : Local k (items B (n + 1) closer) := by
  rw [items]
  refine Local.advance.bind fun _ => .look (fun c c' h => by rw [h.isSymbol]) fun c => ?_
  refine .ite' ((Local.expectSymbol _ _).bind fun _ => .pure' []) ?_
  refine ih.expression.bind fun item => .look (fun c c' h => by rw [h.isKind]) fun c => ?_
  refine .ite' ((ih.items closer).bind fun rest => .pure' _) ?_
  exact (Local.expectSymbol _ _).bind fun _ => .pure' [item]

theorem local_entries : Local k (entries B (n + 1)) := by
  rw [entries]
  refine Local.advance.bind fun _ => .look (fun c c' h => by rw [h.isSymbol]) fun c => ?_
  refine .ite' ((Local.expectSymbol _ _).bind fun _ => .pure' []) ?_
  refine .look (fun c c' h => by rw [h.current]) fun c => ?_
  cases c.current with
  | none => exact .unexpected _
  | some key =>
    refine .ite' (Local.advance.bind fun _ => (Local.expectKind _).bind fun _ => ?_)
      (.unexpected _)
    refine ih.expression.bind fun node => .look (fun c c' h => by rw [h.isKind]) fun c => ?_
    refine .ite' (ih.entries.bind fun rest => .pure' _) ?_
    exact (Local.expectSymbol _ _).bind fun _ => .pure' _

end Steps

/-- By induction on the fuel: every parsing function calls others with less. -/
theorem allLocal (B : Builder N) (k n : Nat) : AllLocal B k n := by
  induction n with
  | zero =>
    constructor <;> intros <;> exact .exhausted
  | succ n ih =>
    exact {
      expression := local_expression ih
      climb := local_climb ih
      binary := local_binary ih
      tails := local_tails ih
      unary := local_unary ih
      prefixed := local_prefixed ih
      ternary := local_ternary ih
      primary := local_primary ih
      arguments := local_arguments ih
      subscript := local_subscript ih
      items := local_items ih
      entries := local_entries ih }

theorem local_complete (B : Builder N) (k n : Nat) : Local k (complete B n) := by
  rw [complete]
  refine Local.advance.bind fun _ => (allLocal B k n).expression.bind fun node => ?_
  refine .look (fun c c' h => by rw [h.current]) fun c => ?_
  cases c.current with
  | none => exact .pure' node
  | some token => exact .fail _

end Parser

end BindingLang
