import BindingLang.Proofs.Parser.Adequacy
/-!
  Finishing: every parse comes to an end, with a fuel linear in the number of
  tokens, and more fuel makes no difference.

  `Finishes T ts p q Q` says that before the tokens `ts` the parser `p` comes to
  a value or to an error, and `q` to the same. The terms `T` are what a parse is
  held to all the way: it meets admitted tokens only, comes to permitted errors
  only, and never asks for more tokens than `T.total`. What can go wrong depends
  on the tokens alone, so terms that permit it are kept by every parse; these
  are the terms that cover the builder.

  The lemmas below carry this through the combinators that the grammar is
  written in; `Finish` says it of all parsing functions together, and one lemma
  for each function makes the step to the next fuel.

  What is proved:
    1. `finish` — with enough fuel every parsing function finishes, and comes to
       the same with any greater fuel.
    2. `complete_finishes` — so does the parse of a whole stream.
-/

namespace BindingLang

namespace Parser

open Cursor

/-- What a parse is held to: the error that ends the stream if one does, the
number of tokens asked for at its end, the tokens that it meets, and the errors
that it may come to. -/
structure Terms where
  failure : Option LexError
  total : Nat
  Admits : Token → Prop
  Permits : ParseError → Prop

namespace Terms

variable {N : Type}

/-- The terms of a stream, whose parse asks for each of its tokens and for the end. -/
def ofStream (stream : Token.Stream) (Admits : Token → Prop) (Permits : ParseError → Prop) :
    Terms :=
  ⟨stream.failure, stream.tokens.length + 1, Admits, Permits⟩

/-- Whether the terms permit whatever can go wrong at the tokens that they admit. -/
structure Covers (T : Terms) (B : Builder N) : Prop where
  lex : ∀ e, T.failure = some e → T.Permits (.lex e)
  unexpected : ∀ expected found, T.Permits (.unexpectedToken expected found)
  member : ∀ found, T.Permits (.expectedIdentifier found)
  trailing : ∀ found, T.Permits (.trailingInput found)
  operator : ∀ t, T.Admits t → t.kind = .operator → t.value ≠ "?" →
    Symbol.isBinary t.value = false → T.Permits (.unknownOperator t.value)
  keyword : ∀ t, T.Admits t → t.kind = .keyword → t.value ≠ "this" →
    T.Permits (.unexpectedKeyword t.value) ∧ T.Permits (.unrecognizedKeyword t.value)
  integer : ∀ t sign text, T.Admits t → t.kind = .integer → sign ∈ ["", "+", "-"] →
    Literal.ofDigits? sign t.value = none → T.Permits (.invalidNumber text)
  decimal : ∀ t sign text, T.Admits t → t.kind = .decimal → sign ∈ ["", "+", "-"] →
    Literal.ofDecimal? sign t.value = none → T.Permits (.invalidNumber text)
  invoke : ∀ receiver method arguments e,
    B.invoke receiver method (some arguments) = .error e → T.Permits e

/-- Whether the outcome of a parse that started before `ts` keeps to the terms:
it is a value with `Q` at a place further on, or a permitted error. -/
def Keeps {α : Type} (T : Terms) (ts : List Token) (Q : α → List Token → Prop) : Outcome α → Prop
  | .value a c => ∃ us, c = facing T.failure T.total us ∧ us <:+ ts ∧ Q a us
  | .error e c => c.pulled ≤ T.total ∧ T.Permits e
  | .exhausted => False

end Terms

variable {α β : Type}

/-- Whether before the tokens `ts` both parsers come to the same, and keep to the
terms. -/
def Finishes (T : Terms) (ts : List Token) (p q : Parser α) (Q : α → List Token → Prop) : Prop :=
  ts.length < T.total → (∀ t ∈ ts, T.Admits t) →
    q (facing T.failure T.total ts) = p (facing T.failure T.total ts) ∧
      T.Keeps ts Q (p (facing T.failure T.total ts))

namespace Finishes

variable {T : Terms} {t : Token} {ts us : List Token} {Q R : α → List Token → Prop}
  {Q' : β → List Token → Prop}

theorem pure' {a : α} (h : Q a ts) : Finishes T ts (pure a) (pure a) Q :=
  fun _ _ => ⟨rfl, ts, rfl, List.suffix_refl _, h⟩

/-- Without a result nothing is to be said of one. -/
theorem pure_none {P : List Token → Prop} :
    Finishes T ts (pure (none : Option α)) (pure none) fun result us => result.isSome → P us :=
  pure' fun h => absurd h Bool.false_ne_true

theorem fail {e : ParseError} (h : T.Permits e) :
    Finishes T ts (Parser.fail e) (Parser.fail e) Q :=
  fun _ _ => ⟨rfl, Nat.sub_le _ _, h⟩

/-- What follows a step starts where the step has left off. -/
theorem bind {p q : Parser α} {f g : α → Parser β} (hp : Finishes T ts p q R)
    (hf : ∀ a us, us <:+ ts → R a us → Finishes T us (f a) (g a) Q') :
    Finishes T ts (p >>= f) (q >>= g) Q' := by
  intro hlt hadmits
  obtain ⟨heq, hkeeps⟩ := hp hlt hadmits
  rw [bind_apply, bind_apply, heq]
  cases hrun : p (facing T.failure T.total ts) with
  | value a c =>
    rw [hrun] at hkeeps
    obtain ⟨us, rfl, hs, ha⟩ := hkeeps
    obtain ⟨hsame, hkept⟩ := hf a us hs ha (Nat.lt_of_le_of_lt hs.length_le hlt)
      fun t ht => hadmits t (hs.subset ht)
    refine ⟨hsame, ?_⟩
    dsimp only
    cases hrest : f a (facing T.failure T.total us) with
    | value b c' =>
      rw [hrest] at hkept
      obtain ⟨vs, rfl, hs', hb⟩ := hkept
      exact ⟨vs, rfl, hs'.trans hs, hb⟩
    | error e c' => rwa [hrest] at hkept
    | exhausted => rwa [hrest] at hkept
  | error e c => exact ⟨rfl, by rwa [hrun] at hkeeps⟩
  | exhausted => rw [hrun] at hkeeps; exact hkeeps.elim

/-- A look at the place takes no token. -/
theorem place_bind {f g : Cursor → Parser α}
    (h : Finishes T ts (f (facing T.failure T.total ts)) (g (facing T.failure T.total ts)) Q) :
    Finishes T ts (place >>= f) (place >>= g) Q := h

theorem mono {p q : Parser α} (h : Finishes T ts p q R) (hQ : ∀ a us, us <:+ ts → R a us → Q a us) :
    Finishes T ts p q Q := by
  intro hlt hadmits
  obtain ⟨heq, hkeeps⟩ := h hlt hadmits
  refine ⟨heq, ?_⟩
  cases hrun : p (facing T.failure T.total ts) with
  | value a c =>
    rw [hrun] at hkeeps
    obtain ⟨us, rfl, hs, ha⟩ := hkeeps
    exact ⟨us, rfl, hs, hQ a us hs ha⟩
  | error e c => rwa [hrun] at hkeeps
  | exhausted => rwa [hrun] at hkeeps

/-- The tokens that are left are admitted, and fewer than will have been asked for. -/
theorem admitted {p q : Parser α}
    (h : ts.length < T.total → (∀ t ∈ ts, T.Admits t) → Finishes T ts p q Q) :
    Finishes T ts p q Q :=
  fun hlt hadmits => h hlt hadmits hlt hadmits

theorem ite' {condition : Prop} [Decidable condition] {p p' q q' : Parser α}
    (hthen : condition → Finishes T ts p q Q) (helse : ¬ condition → Finishes T ts p' q' Q) :
    Finishes T ts (if condition then p else p') (if condition then q else q') Q := by
  split
  · rename_i h
    exact hthen h
  · rename_i h
    exact helse h

theorem map' {p q : Parser α} {f : α → β} (h : Finishes T ts p q fun a us => Q' (f a) us) :
    Finishes T ts (f <$> p) (f <$> q) Q' :=
  h.bind fun _ _ _ ha => pure' ha

theorem ofExcept {result : Except ParseError α} (h : ∀ e, result = .error e → T.Permits e) :
    Finishes T ts (Parser.ofExcept result) (Parser.ofExcept result) fun _ us => us = ts := by
  cases result with
  | ok a => exact pure' rfl
  | error e => exact fail (h e rfl)

section Covered

variable {N : Type} {B : Builder N} (hT : T.Covers B)
include hT

theorem unexpected {expected : String} :
    Finishes T ts (Parser.unexpected expected) (Parser.unexpected expected) Q :=
  fail (hT.unexpected expected (facing T.failure T.total ts).found)

/-- A token is taken, or else the stream fails behind it. -/
theorem advance :
    Finishes T (t :: ts) Parser.advance Parser.advance fun _ us => us = ts := by
  intro hlt _
  refine ⟨rfl, ?_⟩
  rw [List.length_cons] at hlt
  by_cases hend : ts = [] → T.failure = none
  · rw [advance_facing (Nat.lt_of_succ_lt hlt) hend]
    exact ⟨ts, rfl, List.suffix_cons t ts, rfl⟩
  · rw [Classical.not_imp] at hend
    obtain ⟨rfl, hne⟩ := hend
    obtain ⟨e, he⟩ := Option.ne_none_iff_exists'.mp hne
    have hpulled : (facing T.failure T.total [t]).pulled + 1 ≤ T.total := by
      rw [pulled_facing, List.length_singleton]
      omega
    simp only [Parser.advance, facing, List.tail_cons, he]
    exact ⟨hpulled, hT.lex e he⟩

/-- A symbol that is taken is a token. -/
theorem expectSymbol {kind : Token.Kind} {value : String} :
    Finishes T ts (Parser.expectSymbol kind value) (Parser.expectSymbol kind value)
      fun _ us => us.length < ts.length := by
  refine place_bind (ite' (fun h => ?_) fun _ => unexpected hT)
  obtain ⟨t, ht, -⟩ := isSymbol_facing.mp h
  obtain ⟨rest, rfl⟩ := List.head?_eq_some_iff.mp ht
  exact (advance hT).mono fun _ us _ hu => hu ▸ Nat.lt_succ_self _

theorem expectKind {kind : Token.Kind} :
    Finishes T ts (Parser.expectKind kind) (Parser.expectKind kind)
      fun _ us => us.length < ts.length := by
  refine place_bind (ite' (fun h => ?_) fun _ => unexpected hT)
  obtain ⟨t, ht, -⟩ := isKind_facing.mp h
  obtain ⟨rest, rfl⟩ := List.head?_eq_some_iff.mp ht
  exact (advance hT).mono fun _ us _ hu => hu ▸ Nat.lt_succ_self _

theorem constant {text : String} {value : Option Literal}
    (h : value = none → T.Permits (.invalidNumber text)) :
    Finishes T (t :: ts) (Parser.constant B text value) (Parser.constant B text value)
      fun _ us => us = ts := by
  cases value with
  | none => exact fail (h rfl)
  | some value => exact (advance hT).bind fun _ us _ hu => pure' hu

/-- An integer that is admitted is read, or may be refused. -/
theorem integer {sign text : String} (hkind : t.kind = .integer) (hsign : sign ∈ ["", "+", "-"]) :
    Finishes T (t :: ts) (Parser.constant B text (Literal.ofDigits? sign t.value))
      (Parser.constant B text (Literal.ofDigits? sign t.value)) fun _ us => us = ts :=
  admitted fun _ hadmits =>
    constant hT (hT.integer t sign text (hadmits t List.mem_cons_self) hkind hsign)

theorem decimal {sign text : String} (hkind : t.kind = .decimal) (hsign : sign ∈ ["", "+", "-"]) :
    Finishes T (t :: ts) (Parser.constant B text (Literal.ofDecimal? sign t.value))
      (Parser.constant B text (Literal.ofDecimal? sign t.value)) fun _ us => us = ts :=
  admitted fun _ hadmits =>
    constant hT (hT.decimal t sign text (hadmits t List.mem_cons_self) hkind hsign)

theorem memberOf (left : N) (right : Option N) :
    Finishes T ts (Parser.memberOf B left right) (Parser.memberOf B left right)
      fun _ us => us = ts := by
  cases right with
  | none => exact place_bind (fail (hT.member _))
  | some operand =>
    simp only [Parser.memberOf]
    split
    · exact pure' rfl
    · exact ofExcept (hT.invoke _ _ _)
    · exact fail (hT.member _)

end Covered

end Finishes

variable {N : Type} {B : Builder N} {T : Terms} {n m : Nat}

/-- Whether every parsing function finishes with the fuel `n`, where that is
enough for the tokens left, and does the same with the fuel `m`. A function that
takes what it starts with leaves fewer tokens. -/
structure Finish (B : Builder N) (T : Terms) (n m : Nat) : Prop where
  expression : ∀ ts, 8 * ts.length + 4 ≤ n →
    Finishes T ts (expression B n) (expression B m) fun _ _ => True
  climb : ∀ ts left minimum, 8 * ts.length + 3 ≤ n →
    Finishes T ts (climb B n left minimum) (climb B m left minimum) fun _ _ => True
  binary : ∀ operator ts left, operator.kind = .operator → operator.value ≠ "?" →
    8 * ts.length + 10 ≤ n →
    Finishes T (operator :: ts) (binary B n left operator) (binary B m left operator)
      fun _ us => us.length ≤ ts.length
  tails : ∀ ts operator right, 8 * ts.length + 4 ≤ n →
    Finishes T ts (tails B n operator right) (tails B m operator right) fun _ _ => True
  unary : ∀ ts, 8 * ts.length + 3 ≤ n → Finishes T ts (unary B n) (unary B m)
    fun operand us => operand.isSome → us.length < ts.length
  prefixed : ∀ ts operator, 8 * ts.length + 4 ≤ n →
    Finishes T ts (prefixed B n operator) (prefixed B m operator) fun _ _ => True
  ternary : ∀ ts left, 8 * ts.length + 2 ≤ n →
    Finishes T ts (ternary B n left) (ternary B m left) fun _ us => us.length < ts.length
  primary : ∀ ts, 8 * ts.length + 2 ≤ n → Finishes T ts (primary B n) (primary B m)
    fun atom us => atom.isSome → us.length < ts.length
  arguments : ∀ ts, 8 * ts.length + 1 ≤ n → Finishes T ts (arguments B n) (arguments B m)
    fun nodes us => (∃ t ∈ ts.head?, t.isSymbol .grouper "(" = true) →
      nodes.isSome ∧ us.length < ts.length
  subscript : ∀ ts, 8 * ts.length + 1 ≤ n → Finishes T ts (subscript B n) (subscript B m)
    fun _ us => us.length < ts.length
  items : ∀ opener ts closer, 8 * ts.length + 8 ≤ n →
    Finishes T (opener :: ts) (items B n closer) (items B m closer)
      fun _ us => us.length ≤ ts.length
  entries : ∀ opener ts, 8 * ts.length + 8 ≤ n →
    Finishes T (opener :: ts) (entries B n) (entries B m) fun _ us => us.length ≤ ts.length

section Steps

variable (hT : T.Covers B) (ih : Finish B T n m)
include hT ih

theorem finishes_expression (ts : List Token) (hn : 8 * ts.length + 4 ≤ n + 1) :
    Finishes T ts (expression B (n + 1)) (expression B (m + 1)) fun _ _ => True := by
  rw [expression, expression]
  refine .place_bind (.ite' (fun _ => .pure' trivial) fun _ => ?_)
  refine (ih.unary ts (by omega)).bind fun operand us _ hu => ?_
  cases operand with
  | none => exact .unexpected hT
  | some operand =>
    have hlt := hu rfl
    exact ih.climb us operand 0 (by omega)

theorem finishes_climb (ts : List Token) (left : N) (minimum : Nat)
    (hn : 8 * ts.length + 3 ≤ n + 1) :
    Finishes T ts (climb B (n + 1) left minimum) (climb B (m + 1) left minimum)
      fun _ _ => True := by
  rw [climb, climb]
  refine .place_bind ?_
  cases ts with
  | nil => exact .pure' trivial
  | cons t ts =>
    rw [List.length_cons] at hn
    -- Whatever goes on takes the token, so the next turn has one less before it.
    have again (node : N) (us : List Token) (hu : us.length ≤ ts.length) :
        Finishes T us (climb B n node minimum) (climb B m node minimum) fun _ _ => True :=
      ih.climb us node minimum (by omega)
    simp only [current_facing_cons]
    refine .ite' (fun opens => ?call) fun _ => .ite' (fun _ => ?index) fun _ =>
      .ite' (fun _ => ?member) fun _ => .ite' (fun operator => ?operator) fun _ => .pure' trivial
    case call =>
      refine (ih.arguments (t :: ts) (by rw [List.length_cons]; omega)).bind
        fun nodes us _ hu => ?_
      obtain ⟨hsome, hlt⟩ := hu ⟨t, rfl, opens⟩
      obtain ⟨nodes, rfl⟩ := Option.isSome_iff_exists.mp hsome
      refine (Finishes.ofExcept (hT.invoke left none nodes)).bind fun node vs _ hv => ?_
      exact again node vs (hv ▸ Nat.le_of_lt_succ hlt)
    case index =>
      refine (ih.subscript (t :: ts) (by rw [List.length_cons]; omega)).bind
        fun key us _ hu => ?_
      exact again _ us (Nat.le_of_lt_succ hu)
    case member =>
      refine (Finishes.advance hT).bind fun _ us _ hu => ?_
      subst hu
      refine (ih.unary us (by omega)).bind fun right vs hs _ => ?_
      refine (Finishes.memberOf hT left right).bind fun node ws _ hw => ?_
      exact again node ws (hw ▸ hs.length_le)
    case operator =>
      refine .ite' (fun _ => ?_) fun h => ?_
      · refine (ih.ternary (t :: ts) left (by rw [List.length_cons]; omega)).bind
          fun node us _ hu => ?_
        exact again node us (Nat.le_of_lt_succ hu)
      · refine (ih.binary t ts left operator.1 h (by omega)).bind fun node us _ hu => ?_
        exact again node us hu

theorem finishes_binary (operator : Token) (ts : List Token) (left : N)
    (hkind : operator.kind = .operator) (hvalue : operator.value ≠ "?")
    (hn : 8 * ts.length + 10 ≤ n + 1) :
    Finishes T (operator :: ts) (binary B (n + 1) left operator) (binary B (m + 1) left operator)
      fun _ us => us.length ≤ ts.length := by
  rw [binary, binary]
  refine .admitted fun _ hadmits => .ite' (fun unknown => ?_) fun _ => ?_
  · refine .fail (hT.operator operator (hadmits operator List.mem_cons_self) hkind hvalue ?_)
    simpa using unknown
  · refine (Finishes.advance hT).bind fun _ us _ hu => ?_
    subst hu
    refine (ih.unary us (by omega)).bind fun operand vs hs _ => ?_
    have hle := hs.length_le
    cases operand with
    | none => exact .unexpected hT
    | some operand =>
      refine (ih.tails vs operator operand (by omega)).bind fun right ws hs' _ => ?_
      exact .pure' (Nat.le_trans hs'.length_le hle)

omit hT in
theorem finishes_tails (ts : List Token) (operator : Token) (right : N)
    (hn : 8 * ts.length + 4 ≤ n + 1) :
    Finishes T ts (tails B (n + 1) operator right) (tails B (m + 1) operator right)
      fun _ _ => True := by
  rw [tails, tails]
  refine .place_bind ?_
  cases ts with
  | nil => exact .pure' trivial
  | cons next ts =>
    refine .ite' (fun _ => .place_bind ?_) fun _ => .pure' trivial
    refine (ih.climb _ right next.precedence (by omega)).bind fun node us hs _ => ?_
    -- The climb has taken a token unless it is where it was, and then the loop is left.
    refine .place_bind (.ite' (fun _ => .pure' trivial) fun moved => ?_)
    have hle := hs.length_le
    simp only [pulled_facing, List.length_cons] at moved hle hn
    exact ih.tails us operator node (by omega)

theorem finishes_unary (ts : List Token) (hn : 8 * ts.length + 3 ≤ n + 1) :
    Finishes T ts (unary B (n + 1)) (unary B (m + 1))
      fun operand us => operand.isSome → us.length < ts.length := by
  rw [unary, unary]
  refine .place_bind ?_
  cases ts with
  | nil => exact .pure_none
  | cons t ts =>
    rw [List.length_cons] at hn
    refine .ite' (fun _ => ih.primary _ (by rw [List.length_cons]; omega)) fun _ => ?_
    refine (Finishes.advance hT).bind fun _ us _ hu => .place_bind ?_
    subst hu
    -- Taken is the token at least, whatever comes behind it.
    have hprefixed : Finishes T us (prefixed B n t) (prefixed B m t)
        fun operand vs => operand.isSome → vs.length < (t :: us).length :=
      (ih.prefixed us t (by omega)).mono fun _ vs hs _ _ => Nat.lt_succ_of_le hs.length_le
    cases us with
    | nil => exact hprefixed
    | cons number us =>
      have hsign (h : t.value = "+" ∨ t.value = "-") : t.value ∈ ["", "+", "-"] := by
        rcases h with h | h <;> simp [h]
      have htaken (vs : List Token) (hv : vs = us) : vs.length < (t :: number :: us).length := by
        subst hv
        simp only [List.length_cons]
        omega
      refine .ite' (fun h => ?_) fun _ => .ite' (fun h => ?_) fun _ => hprefixed
      · exact .map' ((Finishes.integer hT h.2 (hsign h.1)).mono fun _ vs _ hv _ => htaken vs hv)
      · exact .map' ((Finishes.decimal hT h.2 (hsign h.1)).mono fun _ vs _ hv _ => htaken vs hv)

theorem finishes_prefixed (ts : List Token) (operator : Token) (hn : 8 * ts.length + 4 ≤ n + 1) :
    Finishes T ts (prefixed B (n + 1) operator) (prefixed B (m + 1) operator) fun _ _ => True := by
  rw [prefixed, prefixed]
  refine .ite' (fun _ => .fail (hT.unexpected _ _)) fun _ => ?_
  refine (ih.primary ts (by omega)).bind fun operand us hs _ => ?_
  have hle := hs.length_le
  cases operand with
  | none => exact .unexpected hT
  | some operand =>
    refine (ih.climb us operand Symbol.tightest (by omega)).bind fun node vs _ _ => ?_
    exact .pure' trivial

theorem finishes_ternary (ts : List Token) (left : N) (hn : 8 * ts.length + 2 ≤ n + 1) :
    Finishes T ts (ternary B (n + 1) left) (ternary B (m + 1) left)
      fun _ us => us.length < ts.length := by
  rw [ternary, ternary]
  refine (Finishes.expectSymbol hT).bind fun _ us _ hu => ?_
  refine (ih.expression us (by omega)).bind fun whenTrue vs hs _ => ?_
  have hv := hs.length_le
  refine (Finishes.expectKind hT).bind fun _ ws _ hw => ?_
  refine (ih.expression ws (by omega)).bind fun whenFalse xs hs' _ => ?_
  have hx := hs'.length_le
  exact .pure' (by omega)

theorem finishes_primary (ts : List Token) (hn : 8 * ts.length + 2 ≤ n + 1) :
    Finishes T ts (primary B (n + 1)) (primary B (m + 1))
      fun atom us => atom.isSome → us.length < ts.length := by
  rw [primary, primary]
  refine .place_bind ?_
  cases ts with
  | nil => exact .pure_none
  | cons t ts =>
    rw [List.length_cons] at hn
    simp only [current_facing_cons]
    have htaken {us : List Token} (hu : us.length ≤ ts.length) : us.length < (t :: ts).length :=
      Nat.lt_succ_of_le hu
    have hnext {us : List Token} (hu : us = ts) : us.length < (t :: ts).length :=
      htaken (hu ▸ Nat.le_refl _)
    cases kind : t.kind with
    | keyword =>
      refine .ite' (fun _ => ?_) fun hvalue => .admitted fun _ hadmits => ?_
      · exact (Finishes.advance hT).bind fun _ _ _ hu => .pure' fun _ => hnext hu
      · obtain ⟨hunexpected, hunrecognized⟩ :=
          hT.keyword t (hadmits t List.mem_cons_self) kind hvalue
        exact .ite' (fun _ => .fail hunexpected) fun _ => .fail hunrecognized
    | identifier =>
      refine (Finishes.advance hT).bind fun _ us _ hu => ?_
      subst hu
      split
      · exact .pure' fun _ => htaken (Nat.le_refl _)
      · refine (ih.arguments us (by omega)).bind fun nodes vs hs _ => ?_
        cases nodes with
        | none => exact .pure' fun _ => htaken hs.length_le
        | some nodes =>
          refine .map' ((Finishes.ofExcept (hT.invoke _ none nodes)).mono fun _ ws _ hw _ => ?_)
          exact htaken (hw ▸ hs.length_le)
    | string =>
      exact (Finishes.advance hT).bind fun _ _ _ hu => .pure' fun _ => hnext hu
    | integer =>
      exact .map' ((Finishes.integer hT kind (by simp)).mono fun _ _ _ hu _ => hnext hu)
    | decimal =>
      exact .map' ((Finishes.decimal hT kind (by simp)).mono fun _ _ _ hu _ => hnext hu)
    | grouper =>
      refine .ite' (fun _ => ?paren) fun _ => .ite' (fun _ => ?map) fun _ =>
        .ite' (fun _ => ?list) fun _ => .pure_none
      case paren =>
        refine (Finishes.advance hT).bind fun _ us _ hu => ?_
        subst hu
        refine (ih.expression us (by omega)).bind fun inner vs hs _ => ?_
        refine (Finishes.expectSymbol hT).bind fun _ ws hs' _ => .pure' fun _ => ?_
        exact htaken (Nat.le_trans hs'.length_le hs.length_le)
      case map =>
        exact (ih.entries t ts (by omega)).bind fun _ us _ hu => .pure' fun _ => htaken hu
      case list =>
        exact (ih.items t ts "]" (by omega)).bind fun _ us _ hu => .pure' fun _ => htaken hu
    | colon => exact .unexpected hT
    | dot | comma | operator => exact .pure_none

omit hT in
theorem finishes_arguments (ts : List Token) (hn : 8 * ts.length + 1 ≤ n + 1) :
    Finishes T ts (arguments B (n + 1)) (arguments B (m + 1))
      fun nodes us => (∃ t ∈ ts.head?, t.isSymbol .grouper "(" = true) →
        nodes.isSome ∧ us.length < ts.length := by
  rw [arguments, arguments]
  refine .place_bind (.ite' (fun opens => ?_) fun closed => .pure' fun opens => ?_)
  · obtain ⟨t, ht, -⟩ := isSymbol_facing.mp opens
    obtain ⟨rest, rfl⟩ := List.head?_eq_some_iff.mp ht
    rw [List.length_cons] at hn
    refine .map' ((ih.items t rest ")" (by omega)).mono fun _ us _ hu _ => ?_)
    exact ⟨rfl, Nat.lt_succ_of_le hu⟩
  · exact absurd (isSymbol_facing.mpr opens) closed

theorem finishes_subscript (ts : List Token) (hn : 8 * ts.length + 1 ≤ n + 1) :
    Finishes T ts (subscript B (n + 1)) (subscript B (m + 1))
      fun _ us => us.length < ts.length := by
  rw [subscript, subscript]
  refine (Finishes.expectSymbol hT).bind fun _ us _ hu => ?_
  refine (ih.expression us (by omega)).bind fun key vs hs _ => ?_
  have hv := hs.length_le
  exact (Finishes.expectSymbol hT).bind fun _ ws _ hw => .pure' (by omega)

theorem finishes_items (opener : Token) (ts : List Token) (closer : String)
    (hn : 8 * ts.length + 8 ≤ n + 1) :
    Finishes T (opener :: ts) (items B (n + 1) closer) (items B (m + 1) closer)
      fun _ us => us.length ≤ ts.length := by
  rw [items, items]
  refine (Finishes.advance hT).bind fun _ us _ hu => ?_
  subst hu
  refine .place_bind (.ite' (fun _ => ?_) fun _ => ?_)
  · exact (Finishes.expectSymbol hT).bind fun _ vs hs _ => .pure' hs.length_le
  · refine (ih.expression us (by omega)).bind fun item vs hs _ => ?_
    have hv := hs.length_le
    refine .place_bind (.ite' (fun more => ?_) fun _ => ?_)
    · obtain ⟨comma, hcomma, -⟩ := isKind_facing.mp more
      obtain ⟨rest, rfl⟩ := List.head?_eq_some_iff.mp hcomma
      rw [List.length_cons] at hv
      refine (ih.items comma rest closer (by omega)).bind fun nodes ws _ hw => ?_
      exact .pure' (by omega)
    · refine (Finishes.expectSymbol hT).bind fun _ ws hs' _ => ?_
      exact .pure' (Nat.le_trans hs'.length_le hv)

theorem finishes_entries (opener : Token) (ts : List Token) (hn : 8 * ts.length + 8 ≤ n + 1) :
    Finishes T (opener :: ts) (entries B (n + 1)) (entries B (m + 1))
      fun _ us => us.length ≤ ts.length := by
  rw [entries, entries]
  refine (Finishes.advance hT).bind fun _ us _ hu => ?_
  subst hu
  refine .place_bind (.ite' (fun _ => ?_) fun _ => .place_bind ?_)
  · exact (Finishes.expectSymbol hT).bind fun _ vs hs _ => .pure' hs.length_le
  · cases us with
    | nil => exact .unexpected hT
    | cons key us =>
      rw [List.length_cons] at hn ⊢
      refine .ite' (fun _ => ?_) fun _ => .unexpected hT
      refine (Finishes.advance hT).bind fun _ vs _ hv => ?_
      subst hv
      refine (Finishes.expectKind hT).bind fun _ ws _ hw => ?_
      refine (ih.expression ws (by omega)).bind fun value xs hs _ => ?_
      have hx := hs.length_le
      refine .place_bind (.ite' (fun more => ?_) fun _ => ?_)
      · obtain ⟨comma, hcomma, -⟩ := isKind_facing.mp more
        obtain ⟨rest, rfl⟩ := List.head?_eq_some_iff.mp hcomma
        rw [List.length_cons] at hx
        refine (ih.entries comma rest (by omega)).bind fun nodes ys _ hy => ?_
        exact .pure' (by omega)
      · exact (Finishes.expectSymbol hT).bind fun _ ys _ hy => .pure' (by omega)

end Steps

/-- With enough fuel every parsing function finishes, whatever the tokens, and
more fuel changes nothing. -/
theorem finish (hT : T.Covers B) (h : n ≤ m) : Finish B T n m := by
  induction n generalizing m with
  | zero => constructor <;> intros <;> omega
  | succ n ih =>
    obtain ⟨m, rfl⟩ : ∃ k, m = k + 1 := ⟨m - 1, by omega⟩
    have ih := ih (Nat.le_of_succ_le_succ h)
    exact {
      expression := finishes_expression hT ih
      climb := finishes_climb hT ih
      binary := finishes_binary hT ih
      tails := finishes_tails ih
      unary := finishes_unary hT ih
      prefixed := finishes_prefixed hT ih
      ternary := finishes_ternary hT ih
      primary := finishes_primary hT ih
      arguments := finishes_arguments ih
      subscript := finishes_subscript hT ih
      items := finishes_items hT ih
      entries := finishes_entries hT ih }

/-! ## Whole streams -/

/-- What is left of a parse once the first token has been asked for: the whole of
the tokens is one expression. -/
theorem finishes_whole (hT : T.Covers B) (ts : List Token) (hn : 8 * ts.length + 4 ≤ n)
    (h : n ≤ m) :
    Finishes T ts
      (expression B n >>= fun node => place >>= fun c => match c.current with
        | some token => fail (.trailingInput token.describe)
        | none => pure node)
      (expression B m >>= fun node => place >>= fun c => match c.current with
        | some token => fail (.trailingInput token.describe)
        | none => pure node)
      fun _ us => us = [] := by
  refine ((finish hT h).expression ts hn).bind fun node us _ _ => .place_bind ?_
  cases us with
  | nil => exact .pure' rfl
  | cons t us => exact .fail (hT.trailing _)

/-- The parse of a whole stream finishes with a fuel linear in the number of its
tokens, and comes to the same with more; if it succeeds, it has asked for every
token and for the end. -/
theorem complete_finishes {stream : Token.Stream} {Admits : Token → Prop}
    {Permits : ParseError → Prop} (hT : (Terms.ofStream stream Admits Permits).Covers B)
    (hadmits : ∀ t ∈ stream.tokens, Admits t) (hn : fuelFor stream.tokens.length ≤ n)
    (h : n ≤ m) :
    complete B m (ofStream stream) = complete B n (ofStream stream) ∧
      (Terms.ofStream stream Admits Permits).Keeps stream.tokens (fun _ us => us = [])
        (complete B n (ofStream stream)) := by
  rw [fuelFor] at hn
  by_cases hend : stream.tokens = [] → stream.failure = none
  · have hwhole := finishes_whole hT stream.tokens (by omega) h (Nat.lt_succ_self _) hadmits
    rw [complete, complete, bind_apply, bind_apply, advance_ofStream hend]
    exact hwhole
  · -- The stream fails before its first token.
    rw [Classical.not_imp] at hend
    obtain ⟨hnil, hne⟩ := hend
    obtain ⟨e, he⟩ := Option.ne_none_iff_exists'.mp hne
    have hadvance : advance (ofStream stream) =
        .error (.lex e) { ofStream stream with pulled := 1 } := by
      simp only [advance, ofStream, hnil, he]
    rw [complete, complete, bind_apply, bind_apply, hadvance]
    exact ⟨rfl, Nat.le_add_left 1 _, hT.lex e he⟩

end Parser

end BindingLang
