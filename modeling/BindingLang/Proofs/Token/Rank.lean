import BindingLang.Proofs.Token.Valid
/-!
  Ranks: the precedences that the scanner gives to tokens.

  What is proved:
    1. `Valid.ranked`, `Written.ranked` — an operator binds less tight than a
       postfix, and the tokens that start a postfix bind tightest.
-/

namespace BindingLang

/-- Whether the token starts a postfix: a call, an index or a member read. -/
def Token.StartsPostfix (t : Token) : Prop :=
  t.isSymbol .grouper "(" = true ∨ t.isSymbol .grouper "[" = true ∨ t.kind = .dot

/-- Whether operators and postfixes have their precedences. -/
structure Token.Ranked (t : Token) : Prop where
  operator : t.kind = .operator → t.precedence < Symbol.tightest
  starter : t.StartsPostfix → t.precedence = Symbol.tightest

variable {t : Token} {cs : List Char} {ts : List Token}

/-- The precedence of an operator is that of its symbol. -/
theorem Token.Valid.precedence_operator (h : t.Valid) (hk : t.kind = .operator) :
    t.precedence = Symbol.precedence t.value := by
  rw [h.precedence, hk]
  rfl

/-- No operator binds as tight as a postfix. -/
theorem precedence_lt_tightest {cs : List Char} (h : Token.Kind.operator.Spells cs) :
    Symbol.precedence (String.ofList cs) < Symbol.tightest := by
  have hlong : ∀ symbol ∈ Symbol.triples ++ Symbol.pairs,
      Symbol.precedence symbol < Symbol.tightest := by decide
  have hshort : ∀ c ∈ Symbol.operatorChars,
      Symbol.precedence (String.ofList [c]) < Symbol.tightest :=
    forall_mem_of_all (by decide)
  obtain h | ⟨c, hc, rfl⟩ := h
  · exact hlong _ h
  · exact hshort c hc

theorem Token.Valid.ranked (h : t.Valid) : t.Ranked := by
  constructor
  · intro hk
    have hs := h.spelling
    rw [hk] at hs
    have hlt := precedence_lt_tightest hs
    rwa [String.ofList_toList, ← h.precedence_operator hk] at hlt
  · -- Each of the three is one symbol, and the table has it.
    have hgrouper {value : String} (hv : t.isSymbol .grouper value = true) :
        t.precedence = Symbol.precedence value := by
      simp only [Token.isSymbol, Bool.and_eq_true, beq_iff_eq] at hv
      rw [h.precedence, hv.1, hv.2]
      rfl
    rintro (hcall | hindex | hdot)
    · exact hgrouper hcall
    · exact hgrouper hindex
    · have hs := h.spelling
      rw [hdot] at hs
      rw [h.precedence, hdot, ← @String.ofList_toList t.value, show t.value.toList = ['.'] from hs]
      rfl

/-- The tokens of a written text are ranked. -/
theorem Written.ranked (h : Written cs ts) : ∀ t ∈ ts, t.Ranked := by
  induction h with
  | nil => simp
  | blank hc rest ih => exact ih
  | token nonempty scan tail ih =>
    intro u hu
    rcases List.mem_cons.mp hu with rfl | hu
    · exact (valid_of_scan scan).ranked
    · exact ih u hu

end BindingLang
