import BindingLang.Proofs.Expr.Entries
import BindingLang.Proofs.Expr.Print
import BindingLang.Proofs.Parser.Adequacy
/-!
  Round trip: parsing undoes printing.

  `Reads cs e` says that the text `cs` scans to tokens that run to the tree `e`,
  whatever text and tokens come behind them, as long as they cannot go on with
  an expression. It is proved by induction on the tree; what is in parentheses
  reads in any surroundings (`Reads.enclosed`), so the steps of the induction
  never look at the text around a part.

  What is proved:
    1. `reads_chars` — the text of a printable tree reads as the tree.
    2. `parse_print` — its source parses to it.
-/

namespace BindingLang

namespace Parser

/-- Whether no expression goes on at the token: it is a comma, a colon or a
closing bracket. -/
def IsEnd (t : Token) : Prop :=
  t.kind = .comma ∨ t.kind = .colon ∨ t ∈ [')', ']', '\x7d'].map bracketToken

/-- Whether the tokens are none, or no expression goes on at the first. -/
def Ends (ts : List Token) : Prop := ∀ t ∈ ts.head?, IsEnd t

/-- The text is written, with tokens that run to the tree. -/
def Reads (cs : List Char) (e : Expr) : Prop :=
  ∃ ts : List Token,
    (∀ {rest us}, Loose rest → Written rest us → Written (cs ++ rest) (ts ++ us)) ∧
    ∀ {us}, Ends us → Run Expr.builder .expression (ts ++ us) (.node e) us

/-- The text in parentheses is written before any text, with tokens that run to
the tree before any tokens. -/
def ReadsEnclosed (cs : List Char) (e : Expr) : Prop :=
  ∃ ts : List Token,
    (∀ {rest us}, Written rest us →
      Written (enclosed cs ++ rest) (bracketToken '(' :: (ts ++ us))) ∧
    ∀ us, Run Expr.builder .primary (bracketToken '(' :: (ts ++ us)) (.node e) us

section Tokens

variable {t : Token} {ts us : List Token} {c : Char} {cs rest : List Char}

theorem ends_nil : Ends [] := by
  intro t h
  cases h

theorem ends_cons (h : IsEnd t) : Ends (t :: ts) := by
  rintro u ⟨⟩
  exact h

theorem IsEnd.kind (h : IsEnd t) :
    t.kind = .comma ∨ t.kind = .colon ∨
      (t.kind = .grouper ∧ t.value ∈ [")", "]", "\x7d"] ∧ t.precedence = 0) := by
  obtain h | h | h := h
  · exact Or.inl h
  · exact Or.inr (Or.inl h)
  · refine Or.inr (Or.inr ?_)
    simp only [List.map_cons, List.map_nil, List.mem_cons, List.not_mem_nil, or_false] at h
    rcases h with rfl | rfl | rfl <;> decide

theorem IsEnd.not_extends (h : IsEnd t) (minimum : Nat) : ¬ Extends minimum t := by
  simp only [Extends, Token.isSymbol]
  obtain hk | hk | ⟨hk, hv, -⟩ := h.kind
  · simp [hk]
  · simp [hk]
  · simp only [List.mem_cons, List.not_mem_nil, or_false] at hv
    rcases hv with hv | hv | hv <;> simp [hk, hv]

theorem IsEnd.not_tighter (h : IsEnd t) (operator : Token) : ¬ Tighter operator t := by
  rintro ⟨hstart, hlt⟩
  simp only [startsTail, Bool.or_eq_true, beq_iff_eq] at hstart
  obtain hk | hk | ⟨hk, -, hp⟩ := h.kind
  · simp [hk] at hstart
  · simp [hk] at hstart
  · omega

theorem IsEnd.not_open (h : IsEnd t) : t.isSymbol .grouper "(" = false := by
  rw [← Bool.not_eq_true]
  intro ho
  exact h.not_extends 0 (Or.inl ho)

/-- An expression ends, and with it every tail, at the end of its tokens. -/
theorem Ends.stop {B : Builder N} (h : Ends us) (left : N) (minimum : Nat) :
    Run B (.climb left minimum) us (.node left) us :=
  .stop fun t ht => (h t ht).not_extends minimum

end Tokens

section Parts

variable {cs rest : List Char} {ts us : List Token} {e : Expr}

/-- What reads as a tree reads so in parentheses, in any surroundings. -/
theorem Reads.enclosed (h : Reads cs e) : ReadsEnclosed cs e := by
  obtain ⟨ts, hwritten, hrun⟩ := h
  refine ⟨ts ++ [bracketToken ')'], ?_, ?_⟩
  · intro rest us hrest
    have hclose : Written (')' :: rest) (bracketToken ')' :: us) :=
      written_bracket (by decide) hrest
    have hinner := hwritten (loose_cons (separates_bracket (by decide))) hclose
    have hopen := @written_bracket _ '(' _ (by decide) hinner
    simpa [BindingLang.enclosed] using hopen
  · intro us
    have hend : Ends (bracketToken ')' :: us) := ends_cons (Or.inr (Or.inr (by decide)))
    rw [List.append_assoc]
    exact .paren (by decide) (hrun hend) (by decide)

/-- A primary that expression tokens start with. -/
theorem run_expression_of_primary {t : Token} (kind : t.kind ≠ .operator)
    (h : Run Expr.builder .primary (t :: ts) (.node e) us) (hus : Ends us) :
    Run Expr.builder .expression (t :: ts) (.node e) us :=
  .whole (.atom kind h) (hus.stop e 0)

/-- What is read by postfixes and operators behind a part in parentheses. -/
theorem run_expression_of_climb {inner : Expr} {vs : List Token}
    (h : Run Expr.builder .primary (bracketToken '(' :: ts) (.node inner) us)
    (tail : Run Expr.builder (.climb inner 0) us (.node e) vs) :
    Run Expr.builder .expression (bracketToken '(' :: ts) (.node e) vs :=
  .whole (.atom (by decide) h) tail

/-- A number with its sign reads as the constant that both stand for. -/
theorem reads_number {negative : Bool} {t : Token} {value : Literal}
    (hdigit : ∃ c ∈ cs.head?, c.isDigit = true) (hscan : Scan.ofChars cs = .token t cs.length)
    (hnumber : IsNumber t)
    (hreads : signedNumber? ⟨.operator, String.ofList (signText negative), 0⟩ t = some value) :
    Reads (signText negative ++ cs) (.literal value) := by
  obtain ⟨c, hc, hdigit⟩ := hdigit
  obtain ⟨ds, rfl⟩ := List.head?_eq_some_iff.mp hc
  have hwritten {rest : List Char} {us : List Token} (hr : Loose rest) (h : Written rest us) :
      Written (c :: ds ++ rest) (t :: us) := .cons (List.cons_ne_nil _ _) hscan hr h
  cases negative with
  | false =>
    refine ⟨[t], hwritten, ?_⟩
    intro us hus
    have hconstant : Constant [t] value := by
      unfold signedNumber? at hreads
      rcases hnumber with hk | hk
      · rw [if_pos hk] at hreads
        exact .integer hk hreads
      · rw [if_neg (by rw [hk]; decide)] at hreads
        exact .decimal hk hreads
    have hkind : t.kind ≠ .operator := by
      rcases hnumber with hk | hk <;> rw [hk] <;> decide
    exact run_expression_of_primary hkind (.constant hconstant) hus
  | true =>
    refine ⟨[operatorToken "-", t], ?_, ?_⟩
    · intro rest us hr h
      refine @written_operator (t :: us) (c :: ds ++ rest) "-" (by decide) ?_ (hwritten hr h)
      rintro d ⟨⟩ hm
      have hnone : ∀ c ∈ Symbol.operatorChars, c.isDigit = false :=
        forall_mem_of_all (by decide)
      rw [hnone c hm] at hdigit
      cases hdigit
    · intro us hus
      exact .whole (.signed rfl (Or.inr rfl) hnumber hreads) (hus.stop _ 0)

theorem reads_word {word : String} {value : Literal} (hi : IsIdentifier word.toList)
    (hk : Symbol.isKeyword word = false) (hv : wordLiteral? word = some value) :
    Reads word.toList (.literal value) := by
  refine ⟨[wordToken word], fun hr h => written_word hi hr h, ?_⟩
  intro us hus
  have hkind : (wordToken word).kind = .identifier := by simp [wordToken, hk]
  exact run_expression_of_primary (by rw [hkind]; decide) (.constant (.word hkind hv)) hus

/-- Every constant reads as it, a finite float as long as its decimal text does. -/
theorem reads_literal (q : Quote) {value : Literal} (h : Expr.Printable (.literal value))
    (hfloat : ∀ x, value = .float x → Binary64.readNumeral? (floatText x) = some x) :
    Reads (value.chars q) (.literal value) := by
  cases value with
  | string s =>
    refine ⟨[⟨.string, s, 0⟩], ?_, ?_⟩
    · intro rest us hr h
      have hscan := scan_quoted q s.toList
      rw [String.ofList_toList] at hscan
      exact .cons (List.cons_ne_nil _ _) hscan hr h
    · intro us hus
      exact run_expression_of_primary (by simp) (.constant (.string rfl)) hus
  | integer n =>
    have hdigits := isDigits_toDigits n.toInt.natAbs
    have hhead := hdigits.head []
    rw [List.append_nil] at hhead
    show Reads (integerText n) _
    rw [integerText_eq]
    exact reads_number hhead (scan_digits hdigits) (Or.inl rfl) (ofDigits?_integerText n)
  | float x =>
    obtain ⟨e, he⟩ := Option.isSome_iff_exists.mp h
    obtain ⟨whole, places, hw, hp, htext⟩ := floatText_shape he
    have hback := hfloat x rfl
    show Reads (floatText x) _
    rw [htext] at hback ⊢
    refine reads_number (hw.head _) (scan_decimal hw hp) (Or.inr rfl) ?_
    show Literal.ofDecimal? _ _ = _
    rw [ofDecimal?_eq hw, hback]
    rfl
  | boolean b =>
    cases b with
    | true => exact reads_word (by decide) (by decide) rfl
    | false => exact reads_word (by decide) (by decide) rfl
  | null => exact reads_word (by decide) (by decide) rfl

/-! ## Names and operators -/

theorem wordLiteral?_eq_none {name : String} (h : Expr.IsName name) : wordLiteral? name = none := by
  obtain ⟨-, htrue, hfalse, hnull⟩ := h
  rw [wordLiteral?, if_neg htrue, if_neg hfalse, if_neg hnull]

/-- A name, the word `this` among them, is a primary. -/
theorem run_name {name : String} (h : Expr.IsName name)
    (hus : ∀ u ∈ us.head?, u.isSymbol .grouper "(" = false) :
    Run Expr.builder .primary (wordToken name :: us) (.node (.id name)) us := by
  by_cases hk : Symbol.isKeyword name = true
  · have hkind : (wordToken name).kind = .keyword := by simp [wordToken, hk]
    have hthis : name = "this" := by simpa [Symbol.isKeyword, Symbol.keywords] using hk
    exact .this hkind hthis
  · have hkind : (wordToken name).kind = .identifier := by simp [wordToken, hk]
    exact .name hkind (wordLiteral?_eq_none h) hus

theorem wordToken_kind_ne (name : String) : (wordToken name).kind ≠ .operator := by
  simp only [wordToken]
  split <;> decide

theorem not_isDigit_of_isIdentifier {name : List Char} (h : IsIdentifier name) :
    ∀ c ∈ (name ++ rest).head?, c.isDigit = false := by
  obtain ⟨⟨c, hc, hstart⟩, -⟩ := h
  obtain ⟨ds, rfl⟩ := List.head?_eq_some_iff.mp hc
  rintro d ⟨⟩
  rw [← Bool.not_eq_true]
  intro hd
  exact isDigit_not_nameStart hd hstart

theorem reads_id {name : String} (h : Expr.IsName name) : Reads name.toList (.id name) := by
  refine ⟨[wordToken name], fun hr hw => written_word h.1 hr hw, ?_⟩
  intro us hus
  have hprimary := run_name h fun u hu => (hus u hu).not_open
  exact run_expression_of_primary (wordToken_kind_ne name) hprimary hus

/-- An operator stands before a parenthesis, so it is no sign of a number. -/
theorem reads_unary {operator : String} (ho : operator ∈ Symbol.unaryOperators)
    (h : ReadsEnclosed cs e) : Reads (operator.toList ++ enclosed cs) (.unary operator e) := by
  obtain ⟨ts, hwritten, hrun⟩ := h
  have hmem : operator ∈ operators := by
    revert operator
    decide
  refine ⟨operatorToken operator :: bracketToken '(' :: ts, ?_, ?_⟩
  · intro rest us _ hw
    rw [List.append_assoc]
    refine written_operator hmem ?_ (hwritten hw)
    rintro c ⟨⟩
    decide
  · intro us hus
    refine .whole (.prefixed rfl ?_ (List.contains_iff_mem.mpr ho) (hrun us) (hus.stop e _))
      (hus.stop _ 0)
    rintro t ⟨⟩ - hn
    revert hn
    unfold IsNumber
    decide

theorem reads_binary {operator : String} {left right : Expr} {ls rs : List Char}
    (ho : operator ∈ Symbol.binaryOperators) (hl : ReadsEnclosed ls left)
    (hr : ReadsEnclosed rs right) :
    Reads (enclosed ls ++ (operator.toList ++ enclosed rs)) (.binary operator left right) := by
  obtain ⟨lts, hlw, hlr⟩ := hl
  obtain ⟨rts, hrw, hrr⟩ := hr
  have hmem : operator ∈ operators := List.mem_cons_of_mem _ (List.mem_cons_of_mem _ ho)
  have hne : operator ≠ "?" := by
    rintro rfl
    revert ho
    decide
  refine ⟨bracketToken '(' :: (lts ++ operatorToken operator :: bracketToken '(' :: rts), ?_, ?_⟩
  · intro rest us _ hw
    have hoperator := @written_operator _ _ operator hmem (by rintro c ⟨⟩; decide) (hrw hw)
    have := hlw hoperator
    simpa using this
  · intro us hus
    have hfirst : Run Expr.builder .unary (bracketToken '(' :: (rts ++ us)) (.node right) us :=
      .atom (by decide) (hrr us)
    -- Nothing binds tighter behind the right operand, as nothing goes on there.
    have hsecond : Run Expr.builder (.tails (operatorToken operator) right) us (.node right) us :=
      .looser fun t ht => (hus t ht).not_tighter _
    have htail : Run Expr.builder (.climb left 0)
        (operatorToken operator :: bracketToken '(' :: (rts ++ us))
        (.node (.binary operator left right)) us :=
      .binary rfl hne (Nat.zero_le _) (List.contains_iff_mem.mpr ho) hfirst hsecond (hus.stop _ 0)
    have := run_expression_of_climb (hlr _) htail
    simpa using this

/-! ## Postfixes and choices -/

theorem reads_getter {name : String} (hn : Expr.IsName name) (h : ReadsEnclosed cs e) :
    Reads (enclosed cs ++ '.' :: name.toList) (.getter e name) := by
  obtain ⟨ts, hwritten, hrun⟩ := h
  refine ⟨bracketToken '(' :: (ts ++ [dotToken, wordToken name]), ?_, ?_⟩
  · intro rest us hr hw
    -- No digit follows the dot, so it is not the point of a number.
    have hname := written_word hn.1 hr hw
    have := hwritten (written_dot (not_isDigit_of_isIdentifier hn.1) hname)
    simpa using this
  · intro us hus
    have hprimary := run_name hn fun u hu => (hus u hu).not_open
    have htail : Run Expr.builder (.climb e 0) (dotToken :: wordToken name :: us)
        (.node (.getter e name)) us :=
      .getter rfl (.atom (wordToken_kind_ne name) hprimary) rfl (hus.stop _ 0)
    have := run_expression_of_climb (hrun _) htail
    simpa using this

theorem reads_index {argument : Expr} {as : List Char} (h : ReadsEnclosed cs e)
    (ha : ReadsEnclosed as argument) :
    Reads (enclosed cs ++ '[' :: (enclosed as ++ [']'])) (.index e argument) := by
  obtain ⟨ts, hwritten, hrun⟩ := h
  obtain ⟨ats, haw, har⟩ := ha
  refine ⟨bracketToken '(' ::
    (ts ++ bracketToken '[' :: bracketToken '(' :: (ats ++ [bracketToken ']'])), ?_, ?_⟩
  · intro rest us _ hw
    have hclose := @written_bracket us ']' rest (by decide) hw
    have hopen := @written_bracket _ '[' _ (by decide) (haw hclose)
    have := hwritten hopen
    simpa using this
  · intro us hus
    have hend : Ends (bracketToken ']' :: us) := ends_cons (Or.inr (Or.inr (by decide)))
    have hkey := run_expression_of_primary (by decide) (har (bracketToken ']' :: us)) hend
    have htail : Run Expr.builder (.climb e 0)
        (bracketToken '[' :: bracketToken '(' :: (ats ++ bracketToken ']' :: us))
        (.node (.index e argument)) us :=
      .index (by decide) hkey (by decide) (hus.stop _ 0)
    have := run_expression_of_climb (hrun _) htail
    simpa using this

theorem reads_ternary {whenTrue whenFalse : Expr} {as bs : List Char} (h : ReadsEnclosed cs e)
    (ha : ReadsEnclosed as whenTrue) (hb : ReadsEnclosed bs whenFalse) :
    Reads (enclosed cs ++ '?' :: (enclosed as ++ ':' :: enclosed bs))
      (.ternary e whenTrue whenFalse) := by
  obtain ⟨ts, hwritten, hrun⟩ := h
  obtain ⟨ats, haw, har⟩ := ha
  obtain ⟨bts, hbw, hbr⟩ := hb
  refine ⟨bracketToken '(' :: (ts ++ operatorToken "?" :: bracketToken '(' ::
    (ats ++ colonToken :: bracketToken '(' :: bts)), ?_, ?_⟩
  · intro rest us _ hw
    have hcolon := haw (written_colon (hbw hw))
    have hmark := @written_operator _ _ "?" (by decide) (by rintro c ⟨⟩; decide) hcolon
    have := hwritten hmark
    simpa using this
  · intro us hus
    have hend : Ends (colonToken :: bracketToken '(' :: (bts ++ us)) :=
      ends_cons (Or.inr (Or.inl rfl))
    have hfirst := run_expression_of_primary (by decide)
      (har (colonToken :: bracketToken '(' :: (bts ++ us))) hend
    have hsecond := run_expression_of_primary (by decide) (hbr us) hus
    have htail : Run Expr.builder (.climb e 0) (operatorToken "?" :: bracketToken '(' ::
        (ats ++ colonToken :: bracketToken '(' :: (bts ++ us)))
        (.node (.ternary e whenTrue whenFalse)) us :=
      .ternary rfl rfl (Nat.zero_le _) hfirst rfl hsecond (hus.stop _ 0)
    have := run_expression_of_climb (hrun _) htail
    simpa using this

/-! ## Lists -/

/-- The texts of a list of items, before either of the brackets that close a
list, are written, with tokens that run to the items. -/
def ReadsItems (cs : List Char) (items : List Expr) : Prop :=
  ∃ ts : List Token, ∀ c ∈ [')', ']'],
    (∀ {rest us}, Written rest us → Written (cs ++ c :: rest) (ts ++ bracketToken c :: us)) ∧
    ∀ us, Run Expr.builder (.items (String.ofList [c])) (ts ++ bracketToken c :: us)
      (.items items) us

/-- The texts of entries, before the closing brace. -/
def ReadsEntries (cs : List Char) (entries : List (String × Expr)) : Prop :=
  ∃ ts : List Token,
    (∀ {rest us}, Written rest us →
      Written (cs ++ '\x7d' :: rest) (ts ++ bracketToken '\x7d' :: us)) ∧
    ∀ us, Run Expr.builder .entries (ts ++ bracketToken '\x7d' :: us) (.entries entries) us

theorem isSymbol_bracketToken (c : Char) :
    (bracketToken c).isSymbol .grouper (String.ofList [c]) = true := by
  simp [Token.isSymbol, bracketToken]

theorem isEnd_of_mem {c : Char} (hc : c ∈ [')', ']']) : IsEnd (bracketToken c) := by
  have hall : ∀ c ∈ [')', ']'], c ∈ [')', ']', '\x7d'] := forall_mem_of_all (by decide)
  exact Or.inr (Or.inr (List.mem_map_of_mem (hall c hc)))

/-- A list of items has its parts in parentheses, so that no item begins with
the bracket that closes the list. -/
theorem reads_items (q : Quote) {items : List Expr}
    (h : ∀ item ∈ items, ReadsEnclosed (item.chars q) item) :
    ReadsItems (Expr.charsOfItems q items) items := by
  have hbracket : ∀ c ∈ [')', ']'], c ∈ Symbol.grouperChars := forall_mem_of_all (by decide)
  -- The last item has no comma behind it, so the cases are none, one and more.
  induction items with
  | nil =>
    refine ⟨[], fun c hc => ⟨fun hw => written_bracket (hbracket c hc) hw, fun us => ?_⟩⟩
    exact .itemsNone (isSymbol_bracketToken c)
  | cons item items ih =>
    obtain ⟨its, hiw, hir⟩ := h item List.mem_cons_self
    have hopens : ∀ c ∈ [')', ']'],
        (bracketToken '(').isSymbol .grouper (String.ofList [c]) = false :=
      forall_mem_of_all (by decide)
    cases items with
    | nil =>
      refine ⟨bracketToken '(' :: its, fun c hc => ⟨?_, ?_⟩⟩
      · intro rest us hw
        have hclose : Written (c :: rest) (bracketToken c :: us) :=
          written_bracket (hbracket c hc) hw
        have := hiw hclose
        simpa [Expr.charsOfItems] using this
      · intro us
        have hitem := run_expression_of_primary (by decide) (hir (bracketToken c :: us))
          (ends_cons (isEnd_of_mem hc))
        refine .itemsLast ?_ hitem (isSymbol_bracketToken c)
        rintro u ⟨⟩
        exact hopens c hc
    | cons next items =>
      obtain ⟨ts, hts⟩ := ih fun item hm => h item (List.mem_cons_of_mem _ hm)
      refine ⟨bracketToken '(' :: (its ++ commaToken :: ts), fun c hc => ⟨?_, ?_⟩⟩
      · intro rest us hw
        have := hiw (written_comma ((hts c hc).1 hw))
        rw [Expr.charsOfItems]
        simpa using this
      · intro us
        have hitem := run_expression_of_primary (by decide)
          (hir (commaToken :: (ts ++ bracketToken c :: us))) (ends_cons (Or.inl rfl))
        have hmore : Run Expr.builder (.items (String.ofList [c]))
            (bracketToken '(' :: (its ++ commaToken :: (ts ++ bracketToken c :: us)))
            (.items (item :: next :: items)) us := by
          refine .itemsMore ?_ hitem rfl ((hts c hc).2 us)
          rintro u ⟨⟩
          exact hopens c hc
        simpa using hmore

/-- The text is written before a colon, as the string that a key is. -/
def ReadsKey (cs : List Char) (key : String) : Prop :=
  ∀ {rest us}, Written (':' :: rest) us → Written (cs ++ ':' :: rest) (⟨.string, key, 0⟩ :: us)

theorem readsKey_of_inQuotes {q : Quote} {body : List Char} {key : String}
    (h : InQuotes q body key.toList) : ReadsKey (q.char :: body ++ [q.char]) key := by
  intro rest us hw
  have hscan := h.scan
  rw [String.ofList_toList] at hscan
  exact .cons (List.cons_ne_nil _ _) hscan (loose_cons (separates_bracket (by decide))) hw

/-- What is enclosed reads so by itself. -/
theorem ReadsEnclosed.reads (h : ReadsEnclosed cs e) : Reads (BindingLang.enclosed cs) e := by
  obtain ⟨ts, hwritten, hrun⟩ := h
  refine ⟨bracketToken '(' :: ts, fun _ hw => hwritten hw, ?_⟩
  intro us hus
  exact run_expression_of_primary (by decide) (hrun us) hus

section Entries

variable {key : String} {ks : List Char} {entries : List (String × Expr)}

/-- Before the closing brace there may be no entry, -/
theorem readsEntries_nil : ReadsEntries [] [] :=
  ⟨[], fun hw => written_bracket (by decide) hw, fun us => .entriesNone (by decide)⟩

/-- or one entry, -/
theorem readsEntries_last (hkey : ReadsKey ks key) (h : Reads cs e) :
    ReadsEntries (ks ++ ':' :: cs) [(key, e)] := by
  obtain ⟨ts, hwritten, hrun⟩ := h
  refine ⟨⟨.string, key, 0⟩ :: colonToken :: ts, ?_, ?_⟩
  · intro rest us hw
    have hbrace := @written_bracket us '\x7d' rest (by decide) hw
    have hvalue := hwritten (loose_cons (separates_bracket (by decide))) hbrace
    have hentry := hkey (written_colon hvalue)
    rw [List.append_assoc]
    exact hentry
  · intro us
    have hends : Ends (bracketToken '\x7d' :: us) := ends_cons (Or.inr (Or.inr (by decide)))
    exact .entriesLast rfl rfl (hrun hends) (by decide)

/-- or an entry and a comma before others, or before none. -/
theorem readsEntries_cons (hkey : ReadsKey ks key) (h : Reads cs e)
    (hrest : ReadsEntries rest entries) :
    ReadsEntries (ks ++ ':' :: (cs ++ ',' :: rest)) ((key, e) :: entries) := by
  obtain ⟨ts, hwritten, hrun⟩ := h
  obtain ⟨rs, hrestWritten, hrestRun⟩ := hrest
  refine ⟨⟨.string, key, 0⟩ :: colonToken :: (ts ++ commaToken :: rs), ?_, ?_⟩
  · intro more us hw
    have hcomma := written_comma (hrestWritten hw)
    have hvalue := hwritten (loose_cons (separates_bracket (by decide))) hcomma
    have hentry := hkey (written_colon hvalue)
    simpa only [List.append_assoc, List.cons_append] using hentry
  · intro us
    have hends : Ends (commaToken :: (rs ++ bracketToken '\x7d' :: us)) := ends_cons (Or.inl rfl)
    have hentry : Run Expr.builder .entries (⟨.string, key, 0⟩ :: colonToken ::
        (ts ++ commaToken :: (rs ++ bracketToken '\x7d' :: us)))
        (.entries ((key, e) :: entries)) us :=
      .entriesMore rfl rfl (hrun hends) rfl (hrestRun us)
    simpa only [List.append_assoc, List.cons_append] using hentry

end Entries

theorem reads_entries (q : Quote) {entries : List (String × Expr)}
    (h : ∀ entry ∈ entries, ReadsEnclosed (entry.2.chars q) entry.2) :
    ReadsEntries (Expr.charsOfEntries q entries) entries := by
  induction entries with
  | nil => exact readsEntries_nil
  | cons entry entries ih =>
    obtain ⟨key, node⟩ := entry
    have hkey : ReadsKey (quoted q key.toList) key :=
      readsKey_of_inQuotes (inQuotes_escaped q key.toList)
    have hnode := (h (key, node) List.mem_cons_self).reads
    cases entries with
    | nil =>
      have hlast := readsEntries_last hkey hnode
      simpa [Expr.charsOfEntries] using hlast
    | cons next entries =>
      have hmore := readsEntries_cons hkey hnode
        (ih fun entry hm => h entry (List.mem_cons_of_mem _ hm))
      rw [Expr.charsOfEntries]
      simpa using hmore

theorem reads_list {items : List Expr} (h : ReadsItems cs items) :
    Reads ('[' :: (cs ++ [']'])) (.list items) := by
  obtain ⟨ts, hts⟩ := h
  obtain ⟨hwritten, hrun⟩ := hts ']' (by decide)
  refine ⟨bracketToken '[' :: (ts ++ [bracketToken ']']), ?_, ?_⟩
  · intro rest us _ hw
    have := @written_bracket _ '[' _ (by decide) (hwritten hw)
    simpa using this
  · intro us hus
    have hlist : Run Expr.builder .primary (bracketToken '[' :: (ts ++ bracketToken ']' :: us))
        (.node (.list items)) us := .list (by decide) (hrun us)
    have := run_expression_of_primary (by decide) hlist hus
    simpa using this

/-- Entries in braces read as the map of them, merged. -/
theorem reads_merged {entries : List (String × Expr)} (h : ReadsEntries cs entries) :
    Reads ('\x7b' :: (cs ++ ['\x7d'])) (.map (mergeEntries entries)) := by
  obtain ⟨ts, hwritten, hrun⟩ := h
  refine ⟨bracketToken '\x7b' :: (ts ++ [bracketToken '\x7d']), ?_, ?_⟩
  · intro rest us _ hw
    have := @written_bracket _ '\x7b' _ (by decide) (hwritten hw)
    simpa using this
  · intro us hus
    have hmap : Run Expr.builder .primary (bracketToken '\x7b' :: (ts ++ bracketToken '\x7d' :: us))
        (.node (.map (mergeEntries entries))) us := .map (by decide) (hrun us)
    have := run_expression_of_primary (by decide) hmap hus
    simpa using this

theorem reads_map {entries : List (String × Expr)} (hnodup : (entries.map Prod.fst).Nodup)
    (h : ReadsEntries cs entries) : Reads ('\x7b' :: (cs ++ ['\x7d'])) (.map entries) := by
  have hmap := reads_merged h
  rwa [mergeEntries_of_nodup hnodup] at hmap

/-- A call of a part in parentheses is the call of what the part comes to. -/
theorem reads_call {items : List Expr} {as : List Char} (h : ReadsEnclosed cs e)
    (ha : ReadsItems as items) :
    Reads (enclosed cs ++ '(' :: (as ++ [')'])) (.invoke e none items) := by
  obtain ⟨ts, hwritten, hrun⟩ := h
  obtain ⟨ats, hats⟩ := ha
  obtain ⟨haw, har⟩ := hats ')' (by decide)
  refine ⟨bracketToken '(' :: (ts ++ bracketToken '(' :: (ats ++ [bracketToken ')'])), ?_, ?_⟩
  · intro rest us _ hw
    have := hwritten (@written_bracket _ '(' _ (by decide) (haw hw))
    simpa using this
  · intro us hus
    have htail : Run Expr.builder (.climb e 0)
        (bracketToken '(' :: (ats ++ bracketToken ')' :: us)) (.node (.invoke e none items)) us :=
      .call (by decide) (har us) rfl (hus.stop _ 0)
    have := run_expression_of_climb (hrun _) htail
    simpa using this

/-- A call behind a dot is split into the method and its arguments. -/
theorem reads_method {method : String} {items : List Expr} {as : List Char}
    (hm : Expr.IsName method) (hthis : method ≠ "this") (h : ReadsEnclosed cs e)
    (ha : ReadsItems as items) :
    Reads (enclosed cs ++ '.' :: (method.toList ++ '(' :: (as ++ [')'])))
      (.invoke e (some method) items) := by
  obtain ⟨ts, hwritten, hrun⟩ := h
  obtain ⟨ats, hats⟩ := ha
  obtain ⟨haw, har⟩ := hats ')' (by decide)
  refine ⟨bracketToken '(' :: (ts ++ dotToken :: wordToken method :: bracketToken '(' ::
    (ats ++ [bracketToken ')'])), ?_, ?_⟩
  · intro rest us _ hw
    have hopen := @written_bracket _ '(' _ (by decide) (haw hw)
    have hname := written_word hm.1 (loose_cons (separates_bracket (by decide))) hopen
    have := hwritten (written_dot (not_isDigit_of_isIdentifier hm.1) hname)
    simpa using this
  · intro us hus
    have hkind : (wordToken method).kind = .identifier := by
      simp [wordToken, Symbol.isKeyword, Symbol.keywords, hthis]
    have hcall : Run Expr.builder .unary
        (wordToken method :: bracketToken '(' :: (ats ++ bracketToken ')' :: us))
        (.node (.invoke (.id method) none items)) us :=
      .atom (wordToken_kind_ne method)
        (.nameCall hkind (wordLiteral?_eq_none hm) (by decide) (har us) rfl)
    have htail : Run Expr.builder (.climb e 0) (dotToken :: wordToken method :: bracketToken '(' ::
        (ats ++ bracketToken ')' :: us)) (.node (.invoke e (some method) items)) us :=
      .method rfl hcall rfl rfl (hus.stop _ 0)
    have := run_expression_of_climb (hrun _) htail
    simpa using this

end Parts

/-- Whether the node is printable, and read back from its text if it is a
float. -/
def Restorable (n : Expr) : Prop :=
  n.Printable ∧ ∀ x, n = .literal (.float x) → Binary64.readNumeral? (floatText x) = some x

open BindingLang.Expr in
/-- The text of a tree reads as the tree, where all of its nodes can be
restored. -/
theorem reads_chars (q : Quote) {e : Expr} (h : e.Every Restorable) : Reads (e.chars q) e := by
  induction e using Expr.induct with
  | empty => exact h.self.1.elim
  | literal value =>
    refine reads_literal q h.self.1 ?_
    rintro x rfl
    exact h.self.2 x rfl
  | id name => exact reads_id h.self.1
  | unary operator child ih =>
    obtain ⟨hnode, hchild⟩ := every_unary.mp h
    exact reads_unary hnode.1 (ih hchild).enclosed
  | binary operator left right ihl ihr =>
    obtain ⟨hnode, hleft, hright⟩ := every_binary.mp h
    exact reads_binary hnode.1 (ihl hleft).enclosed (ihr hright).enclosed
  | getter receiver name ih =>
    obtain ⟨hnode, hreceiver⟩ := every_getter.mp h
    exact reads_getter hnode.1 (ih hreceiver).enclosed
  | invoke receiver method arguments ihr iha =>
    obtain ⟨hnode, hreceiver, hitems⟩ := every_invoke.mp h
    have harguments := reads_items q fun item hm => (iha item hm (hitems item hm)).enclosed
    cases method with
    | none => exact reads_call (ihr hreceiver).enclosed harguments
    | some method =>
      obtain ⟨hname, hthis⟩ := hnode.1
      exact reads_method hname hthis (ihr hreceiver).enclosed harguments
  | index receiver argument ihr iha =>
    obtain ⟨-, hreceiver, hargument⟩ := every_index.mp h
    exact reads_index (ihr hreceiver).enclosed (iha hargument).enclosed
  | ternary condition whenTrue whenFalse ihc iht ihf =>
    obtain ⟨-, hcondition, htrue, hfalse⟩ := every_ternary.mp h
    exact reads_ternary (ihc hcondition).enclosed (iht htrue).enclosed (ihf hfalse).enclosed
  | map entries ih =>
    obtain ⟨hnode, hentries⟩ := every_map.mp h
    exact reads_map hnode.1
      (reads_entries q fun entry hm => (ih entry hm (hentries entry hm)).enclosed)
  | list items ih =>
    obtain ⟨-, hitems⟩ := every_list.mp h
    exact reads_list (reads_items q fun item hm => (ih item hm (hitems item hm)).enclosed)

/-- A text by itself parses to the tree that it reads as. -/
theorem parse_of_reads {cs : List Char} {e : Expr} (h : Reads cs e) :
    Expr.parse (String.ofList cs) = .ok e := by
  obtain ⟨ts, hwritten, hrun⟩ := h
  have htext : Written (String.ofList cs).toList ts := by
    rw [String.toList_ofList, ← List.append_nil cs, ← List.append_nil ts]
    refine hwritten ?_ .nil
    rintro c ⟨⟩
  have hwhole := hrun ends_nil
  rw [List.append_nil] at hwhole
  apply parse_eq_ok_iff.mpr
  rw [htext.stream_eq]
  exact ⟨rfl, hwhole⟩

end Parser

namespace Expr

/-- The source of a tree parses to the tree. The decimal text of a float is
taken to convert back to it. -/
theorem parse_print (q : Quote) {e : Expr} (h : ∀ n ∈ e.nodes, Printable n)
    (hfloat : ∀ x, literal (.float x) ∈ e.nodes →
      Binary64.readNumeral? (floatText x) = some x) : parse (e.print q) = .ok e := by
  have hrestorable : ∀ n ∈ e.nodes, Parser.Restorable n := by
    intro n hn
    refine ⟨h n hn, ?_⟩
    rintro x rfl
    exact hfloat x hn
  exact Parser.parse_of_reads (Parser.reads_chars q hrestorable)

/-- The tree of `{"k": -1.5, "it's": a.b(!c)[-7]}`, with a minus that belongs to a
number and a number that is below zero. -/
def sample : Expr :=
  .map [("k", .unary "-" (.literal (.float 1.5))),
    ("it's", .index (.invoke (.id "a") (some "b") [.unary "!" (.id "c")])
      (.literal (.integer (-7))))]

theorem parse_print_sample : parse (sample.print .single) = .ok sample := by
  refine parse_print .single ?_ ?_
  · simp only [sample, nodes, nodesOfItems, nodesOfEntries]
    simp [Printable]
    decide
  · simp only [sample, nodes, nodesOfItems, nodesOfEntries]
    simp
    decide

end Expr

end BindingLang
