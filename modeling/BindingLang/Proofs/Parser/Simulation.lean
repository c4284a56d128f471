import BindingLang.Proofs.Expr.Entries
import BindingLang.Proofs.Expr.Homomorphism
import BindingLang.Proofs.Parser.Cursor
import BindingLang.Expr.Names
import BindingLang.Eval.Basic
/-!
  Simulation: along a homomorphism of builders, parses with one builder are
  parses with the other.

  `Maps f p q` says that `q` does what `p` does at every place of every stream,
  success, failure or want of fuel, and comes to the image of what `p` comes to.
  The lemmas below carry it through the combinators that the grammar is written
  in; `Simulates` says it of all parsing functions together, and one lemma for
  each function makes the step to the next fuel.

  What is proved:
    1. `simulates` — with any fuel the parsing functions of two builders map to
       each other along a homomorphism.
    2. `parse_map` — so do the parses of every source, errors included.
    3. `Formula.parse_interchangeable` — the plain builder and that of formulas
       may be used for each other: in every parse, in every sequence of calls
       made by hand, and in splitting what stands after a dot.
-/

namespace BindingLang

/-- The outcome with its value replaced. -/
def Outcome.map {α β : Type} (f : α → β) : Outcome α → Outcome β
  | .value a c => .value (f a) c
  | .error e c => .error e c
  | .exhausted => .exhausted

namespace Parser

variable {α β γ δ : Type}

/-- Whether `q` comes to the image of what `p` comes to, at every place. -/
def Maps (f : α → β) (p : Parser α) (q : Parser β) : Prop := ∀ c, q c = (p c).map f

namespace Maps

variable {f : α → β} {g : γ → δ}

theorem pure' {a : α} {b : β} (h : b = f a) : Maps f (pure a) (pure b) := by
  rw [h]
  exact fun _ => rfl

theorem fail (e : ParseError) : Maps f (Parser.fail e) (Parser.fail e) := fun _ => rfl

theorem exhausted : Maps f Parser.exhausted Parser.exhausted := fun _ => rfl

theorem unexpected (expected : String) :
    Maps f (Parser.unexpected expected) (Parser.unexpected expected) := fun _ => rfl

theorem ofExcept {result : Except ParseError α} {result' : Except ParseError β}
    (h : result' = result.map f) : Maps f (Parser.ofExcept result) (Parser.ofExcept result') := by
  rw [h]
  cases result <;> exact fun _ => rfl

/-- What follows a step is given the image of what the step comes to. -/
theorem bind {p : Parser α} {q : Parser β} {k : α → Parser γ} {l : β → Parser δ}
    (hp : Maps f p q) (hk : ∀ a, Maps g (k a) (l (f a))) : Maps g (p >>= k) (q >>= l) := by
  intro c
  rw [bind_apply, bind_apply, hp c]
  cases p c with
  | value a c => exact hk a c
  | error e c => rfl
  | exhausted => rfl

/-- A step that makes no nodes is the same with both builders. -/
theorem bind_same {k : α → Parser γ} {l : α → Parser δ} (p : Parser α)
    (hk : ∀ a, Maps g (k a) (l a)) : Maps g (p >>= k) (p >>= l) := by
  intro c
  rw [bind_apply, bind_apply]
  cases p c with
  | value a c => exact hk a c
  | error e c => rfl
  | exhausted => rfl

theorem some' {p : Parser α} {q : Parser β} (h : Maps f p q) :
    Maps (Option.map f) (some <$> p) (some <$> q) :=
  h.bind fun _ => pure' rfl

theorem ite' {condition : Prop} [Decidable condition] {p p' : Parser α} {q q' : Parser β}
    (hthen : Maps f p q) (helse : Maps f p' q') :
    Maps f (if condition then p else p') (if condition then q else q') := by
  split
  · exact hthen
  · exact helse

end Maps

variable {M N : Type} {B : Builder M} {C : Builder N} {f : M → N}

/-- Whether the parsing functions of `C` come to the images of what those of `B`
come to with the same fuel. -/
structure Simulates (B : Builder M) (C : Builder N) (f : M → N) (n : Nat) : Prop where
  expression : Maps f (expression B n) (expression C n)
  climb : ∀ left minimum, Maps f (climb B n left minimum) (climb C n (f left) minimum)
  binary : ∀ left operator, Maps f (binary B n left operator) (binary C n (f left) operator)
  tails : ∀ operator right, Maps f (tails B n operator right) (tails C n operator (f right))
  unary : Maps (Option.map f) (unary B n) (unary C n)
  prefixed : ∀ operator, Maps (Option.map f) (prefixed B n operator) (prefixed C n operator)
  ternary : ∀ condition, Maps f (ternary B n condition) (ternary C n (f condition))
  primary : Maps (Option.map f) (primary B n) (primary C n)
  arguments : Maps (Option.map (List.map f)) (arguments B n) (arguments C n)
  subscript : Maps f (subscript B n) (subscript C n)
  items : ∀ closer, Maps (List.map f) (items B n closer) (items C n closer)
  entries : Maps (List.map (Prod.map id f)) (entries B n) (entries C n)

section Steps

variable {n : Nat} (hom : B.Hom C f)

include hom

theorem maps_constant (text : String) (value : Option Literal) :
    Maps f (constant B text value) (constant C text value) := by
  cases value with
  | none => exact .fail _
  | some value => exact .bind_same advance fun _ => .pure' (hom.literal value)

theorem maps_memberOf (left : M) (right : Option M) :
    Maps f (memberOf B left right) (memberOf C (f left) (right.map f)) := by
  cases right with
  | none => exact .bind_same place fun c => .fail _
  | some operand =>
    simp only [memberOf, Option.map_some, hom.member]
    rcases B.member operand with kind | ⟨name⟩ | ⟨method, arguments⟩
    · exact .fail _
    · exact .pure' (hom.getter left name)
    · exact .ofExcept (hom.invoke left (some method) (some arguments))

variable (ih : Simulates B C f n)

include ih

theorem maps_expression : Maps f (expression B (n + 1)) (expression C (n + 1)) := by
  rw [expression, expression]
  refine .bind_same place fun c => .ite' (.pure' hom.empty) (ih.unary.bind fun operand => ?_)
  cases operand with
  | none => exact .unexpected _
  | some operand => exact ih.climb operand 0

theorem maps_climb (left : M) (minimum : Nat) :
    Maps f (climb B (n + 1) left minimum) (climb C (n + 1) (f left) minimum) := by
  rw [climb, climb]
  refine .bind_same place fun c => ?_
  cases c.current with
  | none => exact .pure' rfl
  | some token =>
    refine .ite' ?call (.ite' ?index (.ite' ?member (.ite' ?operator (.pure' rfl))))
    case call =>
      refine ih.arguments.bind fun arguments => ?_
      exact (Maps.ofExcept (hom.invoke left none arguments)).bind fun node => ih.climb node minimum
    case index =>
      refine ih.subscript.bind fun argument => ?_
      rw [hom.index]
      exact ih.climb _ minimum
    case member =>
      refine .bind_same advance fun _ => ih.unary.bind fun right => ?_
      exact (maps_memberOf hom left right).bind fun node => ih.climb node minimum
    case operator =>
      exact .ite' ((ih.ternary left).bind fun node => ih.climb node minimum)
        ((ih.binary left token).bind fun node => ih.climb node minimum)

theorem maps_binary (left : M) (operator : Token) :
    Maps f (binary B (n + 1) left operator) (binary C (n + 1) (f left) operator) := by
  rw [binary, binary]
  refine .ite' (.fail _) (.bind_same advance fun _ => ih.unary.bind fun operand => ?_)
  cases operand with
  | none => exact .unexpected _
  | some operand => exact (ih.tails operator operand).bind fun right => .pure' (hom.binary _ _ _)

omit hom in
theorem maps_tails (operator : Token) (right : M) :
    Maps f (tails B (n + 1) operator right) (tails C (n + 1) operator (f right)) := by
  rw [tails, tails]
  refine .bind_same place fun c => ?_
  cases c.current with
  | none => exact .pure' rfl
  | some next =>
    refine .ite' (.bind_same place fun before => ?_) (.pure' rfl)
    refine (ih.climb right next.precedence).bind fun node => ?_
    exact .bind_same place fun after => .ite' (.pure' rfl) (ih.tails operator node)

theorem maps_unary : Maps (Option.map f) (unary B (n + 1)) (unary C (n + 1)) := by
  rw [unary, unary]
  refine .bind_same place fun c => ?_
  cases c.current with
  | none => exact .pure' rfl
  | some token =>
    refine .ite' ih.primary (.bind_same advance fun _ => .bind_same place fun c => ?_)
    cases c.current with
    | none => exact ih.prefixed token
    | some number =>
      exact .ite' (maps_constant hom _ _).some'
        (.ite' (maps_constant hom _ _).some' (ih.prefixed token))

theorem maps_prefixed (operator : Token) :
    Maps (Option.map f) (prefixed B (n + 1) operator) (prefixed C (n + 1) operator) := by
  rw [prefixed, prefixed]
  refine .ite' (.fail _) (ih.primary.bind fun operand => ?_)
  cases operand with
  | none => exact .unexpected _
  | some operand =>
    refine (ih.climb operand Symbol.tightest).bind fun node => ?_
    exact .pure' (congrArg some (hom.unary _ _))

theorem maps_ternary (condition : M) :
    Maps f (ternary B (n + 1) condition) (ternary C (n + 1) (f condition)) := by
  rw [ternary, ternary]
  refine .bind_same _ fun _ => ih.expression.bind fun whenTrue => ?_
  refine .bind_same _ fun _ => ih.expression.bind fun whenFalse => ?_
  exact .pure' (hom.ternary _ _ _)

theorem maps_primary : Maps (Option.map f) (primary B (n + 1)) (primary C (n + 1)) := by
  rw [primary, primary]
  refine .bind_same place fun c => ?_
  cases c.current with
  | none => exact .pure' rfl
  | some token =>
    dsimp only
    cases token.kind with
    | keyword =>
      refine .ite' (.bind_same advance fun _ => ?_) (.ite' (.fail _) (.fail _))
      exact .pure' (congrArg some (hom.id _))
    | identifier =>
      refine .bind_same advance fun _ => ?_
      cases wordLiteral? token.value with
      | some value => exact .pure' (congrArg some (hom.literal value))
      | none =>
        refine ih.arguments.bind fun arguments => ?_
        rw [hom.id]
        cases arguments with
        | some nodes => exact (Maps.ofExcept (hom.invoke _ none (some nodes))).some'
        | none => exact .pure' rfl
    | string => exact .bind_same advance fun _ => .pure' (congrArg some (hom.literal _))
    | integer => exact (maps_constant hom _ _).some'
    | decimal => exact (maps_constant hom _ _).some'
    | grouper =>
      refine .ite' ?paren (.ite' ?map (.ite' ?list (.pure' rfl)))
      case paren =>
        refine .bind_same advance fun _ => ih.expression.bind fun inner => ?_
        exact .bind_same _ fun _ => .pure' (congrArg some (hom.paren inner))
      case map =>
        refine ih.entries.bind fun entries => .pure' ?_
        rw [mergeEntries_map, Option.map_some]
        exact congrArg some (hom.map _)
      case list => exact (ih.items _).bind fun items => .pure' (congrArg some (hom.list items))
    | colon => exact .unexpected _
    | dot | comma | operator => exact .pure' rfl

omit hom in
theorem maps_arguments :
    Maps (Option.map (List.map f)) (arguments B (n + 1)) (arguments C (n + 1)) := by
  rw [arguments, arguments]
  exact .bind_same place fun c => .ite' (ih.items _).some' (.pure' rfl)

omit hom in
theorem maps_subscript : Maps f (subscript B (n + 1)) (subscript C (n + 1)) := by
  rw [subscript, subscript]
  refine .bind_same _ fun _ => ih.expression.bind fun argument => ?_
  exact .bind_same _ fun _ => .pure' rfl

omit hom in
theorem maps_items (closer : String) :
    Maps (List.map f) (items B (n + 1) closer) (items C (n + 1) closer) := by
  rw [items, items]
  refine .bind_same advance fun _ => .bind_same place fun c => ?_
  refine .ite' (.bind_same _ fun _ => .pure' rfl) (ih.expression.bind fun item => ?_)
  refine .bind_same place fun c => .ite' ?_ (.bind_same _ fun _ => .pure' rfl)
  exact (ih.items closer).bind fun rest => .pure' rfl

omit hom in
theorem maps_entries :
    Maps (List.map (Prod.map id f)) (entries B (n + 1)) (entries C (n + 1)) := by
  rw [entries, entries]
  refine .bind_same advance fun _ => .bind_same place fun c => ?_
  refine .ite' (.bind_same _ fun _ => .pure' rfl) (.bind_same place fun c => ?_)
  cases c.current with
  | none => exact .unexpected _
  | some key =>
    refine .ite' (.bind_same advance fun _ => .bind_same _ fun _ => ?_) (.unexpected _)
    refine ih.expression.bind fun node => .bind_same place fun c => ?_
    refine .ite' ?_ (.bind_same _ fun _ => .pure' rfl)
    exact ih.entries.bind fun rest => .pure' rfl

end Steps

/-- By induction on the fuel: every parsing function calls others with less. -/
theorem simulates (hom : B.Hom C f) (n : Nat) : Simulates B C f n := by
  induction n with
  | zero =>
    constructor <;> intros <;> exact .exhausted
  | succ n ih =>
    exact {
      expression := maps_expression hom ih
      climb := maps_climb hom ih
      binary := maps_binary hom ih
      tails := maps_tails ih
      unary := maps_unary hom ih
      prefixed := maps_prefixed hom ih
      ternary := maps_ternary hom ih
      primary := maps_primary hom ih
      arguments := maps_arguments ih
      subscript := maps_subscript ih
      items := maps_items ih
      entries := maps_entries ih }

theorem maps_complete (hom : B.Hom C f) (n : Nat) : Maps f (complete B n) (complete C n) := by
  refine .bind_same advance fun _ => (simulates hom n).expression.bind fun node => ?_
  refine .bind_same place fun c => ?_
  cases c.current with
  | none => exact .pure' rfl
  | some token => exact .fail _

end Parser

variable {M N : Type} {B : Builder M} {C : Builder N} {f : M → N}

/-- With the builder that a homomorphism leads to, every source parses to the
image of its tree, or fails with the same error. -/
theorem parse_map (hom : B.Hom C f) (source : String) : parse C source = (parse B source).map f := by
  have run := Parser.maps_complete hom
    (Parser.fuelFor (Token.Stream.ofText source).tokens.length)
    (Cursor.ofStream (Token.Stream.ofText source))
  rw [parse, parse, Parser.runStream, Parser.runStream, run]
  cases Parser.complete B _ _ <;> rfl

namespace Formula

/-- The plain builder and that of formulas may be used for each other. Every
source parses to a tree and the formula of that tree, or fails with one error;
what is parsed has the same value in every scope of every host and lists the
same names after every seed. Every sequence of constructor calls is answered
alike, node by node and refusal by refusal, and every node after a dot is split
alike. -/
theorem parse_interchangeable :
    (∀ source, parse source = (Expr.parse source).map mk ∧
      (∀ (σ : Type) (host : Host σ) (scope : Scope),
        (parse source).map (fun f => f.eval host scope) =
          (Expr.parse source).map fun e => e.eval host scope) ∧
      ∀ seed, (parse source).map (fun f => f.namesAfter seed) =
        (Expr.parse source).map fun e => e.namesAfter seed) ∧
    (∀ calls, Call.performAll builder [] calls =
      (Call.performAll Expr.builder [] calls).map (Answer.map mk)) ∧
    ∀ e, builder.member ⟨e⟩ = (Expr.builder.member e).map (Member.map mk) := by
  refine ⟨fun source => ?_, fun calls => hom_builder.performAll calls [], hom_builder.member⟩
  have built : parse source = (Expr.parse source).map mk := parse_map hom_builder source
  refine ⟨built, fun σ host scope => ?_, fun seed => ?_⟩ <;>
  · rw [built]
    cases Expr.parse source <;> rfl

end Formula

end BindingLang
