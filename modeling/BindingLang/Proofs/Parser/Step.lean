import BindingLang.Proofs.Parser.Cursor
import BindingLang.Proofs.Parser.Run
/-!
  Steps: what a parsing function does along each of its ways.

  One lemma for each way in which a function succeeds. It says what has to stand
  before the cursor, and what the calls made on the way come to; the function
  then comes to what its last call comes to. The fuel goes down by one with each
  call.
-/

namespace BindingLang

namespace Parser

open Cursor

variable {N : Type} {B : Builder N} {failure : Option LexError} {total n minimum : Nat}
  {ts us : List Token} {c₁ c₂ : Cursor}

/-! ## Expressions -/

theorem expression_empty :
    expression B (n + 1) (facing failure total []) = .value B.empty (facing failure total []) := by
  simp [expression]

theorem expression_whole {t : Token} {operand : N}
    (first : unary B n (facing failure total (t :: ts)) = .value (some operand) c₁) :
    expression B (n + 1) (facing failure total (t :: ts)) = climb B n operand 0 c₁ := by
  simp [expression, first]

/-! ## The tail of an operand -/

theorem climb_stop {left : N} (ends : ∀ t ∈ ts.head?, ¬ Extends minimum t) :
    climb B (n + 1) left minimum (facing failure total ts) =
      .value left (facing failure total ts) := by
  cases ts with
  | nil => simp [climb]
  | cons t ts =>
    have he : ¬ Extends minimum t := ends t rfl
    simp only [Extends, not_or] at he
    simp [climb, he]

theorem climb_call {left callee : N} {opener : Token} {nodes : List N}
    (opens : opener.isSymbol .grouper "(" = true)
    (list : items B n ")" (facing failure total (opener :: ts)) = .value nodes c₁)
    (builds : B.invoke left none (some nodes) = .ok callee) :
    climb B (n + 2) left minimum (facing failure total (opener :: ts)) =
      climb B (n + 1) callee minimum c₁ := by
  rw [climb]
  simp [arguments, isSymbol_facing, opens, list, builds]

theorem not_isSymbol_of_isSymbol {t : Token} {kind : Token.Kind} {value other : String}
    (h : t.isSymbol kind value = true) (hne : value ≠ other) : t.isSymbol kind other = false := by
  simp only [Token.isSymbol, Bool.and_eq_true, beq_iff_eq] at h
  simp [Token.isSymbol, h, hne]

theorem kind_of_isSymbol {t : Token} {kind : Token.Kind} {value : String}
    (h : t.isSymbol kind value = true) : t.kind = kind := by
  simp only [Token.isSymbol, Bool.and_eq_true, beq_iff_eq] at h
  exact h.1

theorem value_of_isSymbol {t : Token} {kind : Token.Kind} {value : String}
    (h : t.isSymbol kind value = true) : t.value = value := by
  simp only [Token.isSymbol, Bool.and_eq_true, beq_iff_eq] at h
  exact h.2

theorem climb_index {left argument : N} {opener closer : Token}
    (opens : opener.isSymbol .grouper "[" = true) (hts : ts.length < total)
    (hend : ts = [] → failure = none)
    (key : expression B n (facing failure total ts) =
      .value argument (facing failure total (closer :: us)))
    (closes : closer.isSymbol .grouper "]" = true) (hus : us.length < total)
    (hend' : us = [] → failure = none) :
    climb B (n + 2) left minimum (facing failure total (opener :: ts)) =
      climb B (n + 1) (B.index left argument) minimum (facing failure total us) := by
  rw [climb]
  simp [subscript, opens, not_isSymbol_of_isSymbol opens (show "[" ≠ "(" by decide), key,
    expectSymbol_facing opens hts hend, expectSymbol_facing closes hus hend']

theorem climb_getter {left right : N} {dot : Token} {name : String} (kind : dot.kind = .dot)
    (hts : ts.length < total) (hend : ts = [] → failure = none)
    (operand : unary B n (facing failure total ts) = .value (some right) c₁)
    (splits : B.member right = .ok (.name name)) :
    climb B (n + 1) left minimum (facing failure total (dot :: ts)) =
      climb B n (B.getter left name) minimum c₁ := by
  rw [climb]
  simp [Token.isSymbol, kind, advance_facing hts hend, operand, memberOf, splits]

theorem climb_method {left right callee : N} {dot : Token} {name : String} {nodes : List N}
    (kind : dot.kind = .dot) (hts : ts.length < total) (hend : ts = [] → failure = none)
    (operand : unary B n (facing failure total ts) = .value (some right) c₁)
    (splits : B.member right = .ok (.call name nodes))
    (builds : B.invoke left (some name) (some nodes) = .ok callee) :
    climb B (n + 1) left minimum (facing failure total (dot :: ts)) =
      climb B n callee minimum c₁ := by
  rw [climb]
  simp [Token.isSymbol, kind, advance_facing hts hend, operand, memberOf, splits, builds]

theorem climb_ternary {left whenTrue whenFalse : N} {mark colon : Token}
    (kind : mark.kind = .operator) (value : mark.value = "?") (binds : minimum ≤ mark.precedence)
    (hts : ts.length < total) (hend : ts = [] → failure = none)
    (first : expression B n (facing failure total ts) =
      .value whenTrue (facing failure total (colon :: us)))
    (colons : colon.kind = .colon) (hus : us.length < total) (hend' : us = [] → failure = none)
    (second : expression B n (facing failure total us) = .value whenFalse c₁) :
    climb B (n + 2) left minimum (facing failure total (mark :: ts)) =
      climb B (n + 1) (B.ternary left whenTrue whenFalse) minimum c₁ := by
  have hmark : mark.isSymbol .operator "?" = true := by simp [Token.isSymbol, kind, value]
  rw [climb]
  simp [Token.isSymbol, ternary, kind, value, binds, first, second,
    expectSymbol_facing hmark hts hend, expectKind_facing colons hus hend']

theorem climb_binary {left operand right : N} {operator : Token}
    (kind : operator.kind = .operator) (value : operator.value ≠ "?")
    (binds : minimum ≤ operator.precedence) (known : Symbol.isBinary operator.value = true)
    (hts : ts.length < total) (hend : ts = [] → failure = none)
    (first : unary B n (facing failure total ts) = .value (some operand) c₁)
    (second : tails B n operator operand c₁ = .value right c₂) :
    climb B (n + 2) left minimum (facing failure total (operator :: ts)) =
      climb B (n + 1) (B.binary left operator.value right) minimum c₂ := by
  rw [climb]
  simp [Token.isSymbol, binary, kind, value, binds, known, first, second,
    advance_facing hts hend]

theorem tails_looser {operator : Token} {right : N}
    (ends : ∀ t ∈ ts.head?, ¬ Tighter operator t) :
    tails B (n + 1) operator right (facing failure total ts) =
      .value right (facing failure total ts) := by
  cases ts with
  | nil => simp [tails]
  | cons t ts =>
    have he : ¬ Tighter operator t := ends t rfl
    simp only [Tighter] at he
    simp [tails, he]

theorem tails_stuck {operator next : Token} {right node : N} (tighter : Tighter operator next)
    (step : climb B n right next.precedence (facing failure total (next :: ts)) =
      .value node (facing failure total (next :: ts))) :
    tails B (n + 1) operator right (facing failure total (next :: ts)) =
      .value node (facing failure total (next :: ts)) := by
  simp only [Tighter] at tighter
  rw [tails]
  simp [tighter, step]

/-- A token taken shows in the number of tokens asked for. -/
theorem tails_tighter {operator next : Token} {right extended : N}
    (tighter : Tighter operator next)
    (step : climb B n right next.precedence (facing failure total (next :: ts)) =
      .value extended (facing failure total us))
    (moves : us.length ≤ ts.length) (hts : ts.length < total) :
    tails B (n + 1) operator right (facing failure total (next :: ts)) =
      tails B n operator extended (facing failure total us) := by
  have hpulled : ¬ total - us.length = total - (ts.length + 1) := by omega
  simp only [Tighter] at tighter
  rw [tails]
  simp [tighter, step, hpulled]

/-! ## Operands -/

theorem unary_atom {t : Token} (kind : t.kind ≠ .operator) :
    unary B (n + 1) (facing failure total (t :: ts)) =
      primary B n (facing failure total (t :: ts)) := by
  rw [unary]
  simp [kind]

theorem constant_facing {text : String} {value : Literal} {t : Token} (hts : ts.length < total)
    (hend : ts = [] → failure = none) :
    constant B text (some value) (facing failure total (t :: ts)) =
      .value (B.literal value) (facing failure total ts) := by
  simp [constant, advance_facing hts hend]

theorem unary_signed {sign number : Token} {value : Literal} (kind : sign.kind = .operator)
    (sign' : IsSign sign) (number' : IsNumber number) (hts : ts.length + 1 < total)
    (hend : ts = [] → failure = none) (reads : signedNumber? sign number = some value) :
    unary B (n + 1) (facing failure total (sign :: number :: ts)) =
      .value (some (B.literal value)) (facing failure total ts) := by
  have hadvance := @advance_facing failure total sign (number :: ts) hts
    (fun h => absurd h (List.cons_ne_nil _ _))
  have hconstant (text : String) :=
    @constant_facing N B failure total ts text value number (by omega) hend
  simp only [IsSign] at sign'
  rw [unary]
  rcases number' with hk | hk
  · simp only [signedNumber?, hk, if_true] at reads
    simp [kind, hadvance, sign', hk, reads, hconstant]
  · simp only [signedNumber?, hk, if_neg (show ¬ Token.Kind.decimal = .integer by decide)] at reads
    simp [kind, hadvance, sign', hk, reads, hconstant]

/-- An operator that is no sign of a number leaves its operand to `prefixed`. -/
theorem unary_operator {operator : Token} (kind : operator.kind = .operator)
    (unsigned : ∀ t ∈ ts.head?, IsSign operator → ¬ IsNumber t) (hts : ts.length < total)
    (hend : ts = [] → failure = none) :
    unary B (n + 1) (facing failure total (operator :: ts)) =
      prefixed B n operator (facing failure total ts) := by
  have hadvance := @advance_facing failure total operator ts hts hend
  -- The next token matters only behind a sign, and only if it is a number.
  rw [unary, place_bind_apply]
  cases ts with
  | nil => simp [kind, hadvance]
  | cons t ts =>
    have hu : IsSign operator → ¬ IsNumber t := unsigned t rfl
    simp only [IsSign, IsNumber, not_or] at hu
    by_cases hs : operator.value = "+" ∨ operator.value = "-"
    · simp [kind, hadvance, hs, hu hs]
    · simp [kind, hadvance, hs]

theorem unary_prefixed {operator : Token} {operand node : N} (kind : operator.kind = .operator)
    (unsigned : ∀ t ∈ ts.head?, IsSign operator → ¬ IsNumber t)
    (known : Symbol.isUnary operator.value = true) (hts : ts.length < total)
    (hend : ts = [] → failure = none)
    (first : primary B n (facing failure total ts) = .value (some operand) c₁)
    (tail : climb B n operand Symbol.tightest c₁ = .value node c₂) :
    unary B (n + 2) (facing failure total (operator :: ts)) =
      .value (some (B.unary operator.value node)) c₂ := by
  rw [unary_operator kind unsigned hts hend, prefixed]
  simp [known, first, tail]

/-! ## Atoms -/

theorem primary_this {t : Token} (kind : t.kind = .keyword) (value : t.value = "this")
    (hts : ts.length < total) (hend : ts = [] → failure = none) :
    primary B (n + 1) (facing failure total (t :: ts)) =
      .value (some (B.id t.value)) (facing failure total ts) := by
  rw [primary]
  simp [kind, value, advance_facing hts hend]

theorem primary_constant {t : Token} {value : Literal} (reads : Constant [t] value)
    (hts : ts.length < total) (hend : ts = [] → failure = none) :
    primary B (n + 1) (facing failure total (t :: ts)) =
      .value (some (B.literal value)) (facing failure total ts) := by
  rw [primary]
  cases reads with
  | word kind reads => simp [kind, reads, advance_facing hts hend]
  | string kind => simp [kind, advance_facing hts hend]
  | integer kind reads => simp [kind, reads, constant_facing hts hend]
  | decimal kind reads => simp [kind, reads, constant_facing hts hend]

theorem primary_name {t : Token} (kind : t.kind = .identifier)
    (noWord : wordLiteral? t.value = none)
    (ends : ∀ u ∈ ts.head?, u.isSymbol .grouper "(" = false) (hts : ts.length < total)
    (hend : ts = [] → failure = none) :
    primary B (n + 2) (facing failure total (t :: ts)) =
      .value (some (B.id t.value)) (facing failure total ts) := by
  have hopen : (facing failure total ts).isSymbol .grouper "(" = false := by
    rw [← Bool.not_eq_true, isSymbol_facing]
    rintro ⟨u, hu, hs⟩
    rw [ends u hu] at hs
    cases hs
  rw [primary]
  simp [kind, noWord, advance_facing hts hend, arguments, hopen]

theorem primary_nameCall {t opener : Token} {nodes : List N} {node : N}
    (kind : t.kind = .identifier) (noWord : wordLiteral? t.value = none)
    (opens : opener.isSymbol .grouper "(" = true) (hts : ts.length + 1 < total)
    (list : items B n ")" (facing failure total (opener :: ts)) = .value nodes c₁)
    (builds : B.invoke (B.id t.value) none (some nodes) = .ok node) :
    primary B (n + 2) (facing failure total (t :: opener :: ts)) = .value (some node) c₁ := by
  have hadvance := @advance_facing failure total t (opener :: ts) hts
    (fun h => absurd h (List.cons_ne_nil _ _))
  rw [primary]
  simp [kind, noWord, hadvance, arguments, isSymbol_facing, opens, list, builds]

theorem primary_paren {opener closer : Token} {inner : N}
    (opens : opener.isSymbol .grouper "(" = true) (hts : ts.length < total)
    (hend : ts = [] → failure = none)
    (run : expression B n (facing failure total ts) =
      .value inner (facing failure total (closer :: us)))
    (closes : closer.isSymbol .grouper ")" = true) (hus : us.length < total)
    (hend' : us = [] → failure = none) :
    primary B (n + 1) (facing failure total (opener :: ts)) =
      .value (some (B.paren inner)) (facing failure total us) := by
  rw [primary]
  simp [kind_of_isSymbol opens, value_of_isSymbol opens, advance_facing hts hend, run,
    expectSymbol_facing closes hus hend']

theorem primary_map {opener : Token} {nodes : List (String × N)}
    (opens : opener.isSymbol .grouper "\x7b" = true)
    (list : entries B n (facing failure total (opener :: ts)) = .value nodes c₁) :
    primary B (n + 1) (facing failure total (opener :: ts)) =
      .value (some (B.map (mergeEntries nodes))) c₁ := by
  rw [primary]
  simp [kind_of_isSymbol opens, value_of_isSymbol opens, list]

theorem primary_list {opener : Token} {nodes : List N}
    (opens : opener.isSymbol .grouper "[" = true)
    (list : items B n "]" (facing failure total (opener :: ts)) = .value nodes c₁) :
    primary B (n + 1) (facing failure total (opener :: ts)) = .value (some (B.list nodes)) c₁ := by
  rw [primary]
  simp [kind_of_isSymbol opens, value_of_isSymbol opens, list]

/-! ## Lists -/

theorem items_none {closer : String} {opener t : Token} (closes : t.isSymbol .grouper closer = true)
    (hts : ts.length + 1 < total) (hend : ts = [] → failure = none) :
    items B (n + 1) closer (facing failure total (opener :: t :: ts)) =
      .value [] (facing failure total ts) := by
  have hadvance := @advance_facing failure total opener (t :: ts) hts
    (fun h => absurd h (List.cons_ne_nil _ _))
  rw [items]
  simp [hadvance, isSymbol_facing, closes,
    expectSymbol_facing closes (show ts.length < total by omega) hend]

/-- An item is an expression; what ends it decides whether more follow. -/
theorem items_item {closer : String} {opener : Token} {item : N}
    (opens : ∀ u ∈ ts.head?, u.isSymbol .grouper closer = false) (hts : ts.length < total)
    (hend : ts = [] → failure = none)
    (run : expression B n (facing failure total ts) = .value item c₁) :
    items B (n + 1) closer (facing failure total (opener :: ts)) =
      (if c₁.isKind .comma then
        (do let rest ← items B n closer; pure (item :: rest))
      else (do expectSymbol .grouper closer; pure [item])) c₁ := by
  have hopen : ¬ (facing failure total ts).isSymbol .grouper closer = true := by
    rw [isSymbol_facing]
    rintro ⟨u, hu, hs⟩
    rw [opens u hu] at hs
    cases hs
  rw [items]
  simp [advance_facing hts hend, hopen, run]

theorem items_last {closer : String} {opener t : Token} {item : N}
    (opens : ∀ u ∈ ts.head?, u.isSymbol .grouper closer = false) (hts : ts.length < total)
    (hend : ts = [] → failure = none)
    (run : expression B n (facing failure total ts) =
      .value item (facing failure total (t :: us)))
    (closes : t.isSymbol .grouper closer = true) (hus : us.length < total)
    (hend' : us = [] → failure = none) :
    items B (n + 1) closer (facing failure total (opener :: ts)) =
      .value [item] (facing failure total us) := by
  have hcomma : ¬ (facing failure total (t :: us)).isKind .comma = true := by
    simp [isKind_facing, kind_of_isSymbol closes]
  rw [items_item opens hts hend run]
  simp [hcomma, expectSymbol_facing closes hus hend']

theorem items_more {closer : String} {opener comma : Token} {item : N} {rest : List N}
    (opens : ∀ u ∈ ts.head?, u.isSymbol .grouper closer = false) (hts : ts.length < total)
    (hend : ts = [] → failure = none)
    (run : expression B n (facing failure total ts) =
      .value item (facing failure total (comma :: us)))
    (commas : comma.kind = .comma)
    (more : items B n closer (facing failure total (comma :: us)) = .value rest c₁) :
    items B (n + 1) closer (facing failure total (opener :: ts)) = .value (item :: rest) c₁ := by
  have hcomma : (facing failure total (comma :: us)).isKind .comma = true := by
    simp [isKind_facing, commas]
  rw [items_item opens hts hend run]
  simp [hcomma, more]

theorem entries_none {opener t : Token} (closes : t.isSymbol .grouper "\x7d" = true)
    (hts : ts.length + 1 < total) (hend : ts = [] → failure = none) :
    entries B (n + 1) (facing failure total (opener :: t :: ts)) =
      .value [] (facing failure total ts) := by
  have hadvance := @advance_facing failure total opener (t :: ts) hts
    (fun h => absurd h (List.cons_ne_nil _ _))
  rw [entries]
  simp [hadvance, isSymbol_facing, closes,
    expectSymbol_facing closes (show ts.length < total by omega) hend]

/-- An entry is a key, a colon and an expression. -/
theorem entries_entry {opener key colon : Token} {value : N} (kind : key.kind = .string)
    (colons : colon.kind = .colon) (hts : ts.length + 2 < total)
    (hend : ts = [] → failure = none)
    (run : expression B n (facing failure total ts) = .value value c₁) :
    entries B (n + 1) (facing failure total (opener :: key :: colon :: ts)) =
      (if c₁.isKind .comma then
        (do let rest ← entries B n; pure ((key.value, value) :: rest))
      else (do expectSymbol .grouper "\x7d"; pure [(key.value, value)])) c₁ := by
  have hopener := @advance_facing failure total opener (key :: colon :: ts) hts
    (fun h => absurd h (List.cons_ne_nil _ _))
  have hkey := @advance_facing failure total key (colon :: ts)
    (by simp only [List.length_cons]; omega) (fun h => absurd h (List.cons_ne_nil _ _))
  have hopen : ¬ (facing failure total (key :: colon :: ts)).isSymbol .grouper "\x7d" = true := by
    simp [isSymbol_facing, Token.isSymbol, kind]
  rw [entries]
  simp [hopener, hopen, kind, hkey, run,
    expectKind_facing colons (show ts.length < total by omega) hend]

theorem entries_last {opener key colon t : Token} {value : N} (kind : key.kind = .string)
    (colons : colon.kind = .colon) (hts : ts.length + 2 < total)
    (hend : ts = [] → failure = none)
    (run : expression B n (facing failure total ts) =
      .value value (facing failure total (t :: us)))
    (closes : t.isSymbol .grouper "\x7d" = true) (hus : us.length < total)
    (hend' : us = [] → failure = none) :
    entries B (n + 1) (facing failure total (opener :: key :: colon :: ts)) =
      .value [(key.value, value)] (facing failure total us) := by
  have hcomma : ¬ (facing failure total (t :: us)).isKind .comma = true := by
    simp [isKind_facing, kind_of_isSymbol closes]
  rw [entries_entry kind colons hts hend run]
  simp [hcomma, expectSymbol_facing closes hus hend']

theorem entries_more {opener key colon comma : Token} {value : N} {rest : List (String × N)}
    (kind : key.kind = .string) (colons : colon.kind = .colon) (hts : ts.length + 2 < total)
    (hend : ts = [] → failure = none)
    (run : expression B n (facing failure total ts) =
      .value value (facing failure total (comma :: us)))
    (commas : comma.kind = .comma)
    (more : entries B n (facing failure total (comma :: us)) = .value rest c₁) :
    entries B (n + 1) (facing failure total (opener :: key :: colon :: ts)) =
      .value ((key.value, value) :: rest) c₁ := by
  have hcomma : (facing failure total (comma :: us)).isKind .comma = true := by
    simp [isKind_facing, commas]
  rw [entries_entry kind colons hts hend run]
  simp [hcomma, more]

end Parser

end BindingLang
