import BindingLang.Proofs.Expr.Numeral
import BindingLang.Proofs.Parser.Finishing
import BindingLang.Proofs.Token.Valid
import Mathlib
/-!
  Faults: what can be wrong with a source.

  The grammar has a step that fails for every kind of error, but some of these
  steps are never come to. The scanner delivers valid tokens only, so a keyword
  is `this`, and the text of a number is one that reads back; an argument list
  is asked for only where a parenthesis opens one; and of the operators of the
  scanner all stand between operands but `?`, which has its own step, and two
  more.

  What is proved:
    1. `covers_faults` — the errors that a source can have are all that a parse
       of valid tokens comes to.
    2. `parse_faults` — so a source that is refused has one of them.
-/

namespace BindingLang

/-- Whether the error is one that a source can have, whose scan ends with
`failure`. -/
def ParseError.Arises (failure : Option LexError) : ParseError → Prop
  | .lex e => failure = some e
  | .unexpectedToken _ _ => True
  | .unexpectedKeyword _ => False
  | .unrecognizedKeyword _ => False
  | .expectedIdentifier _ => True
  | .unknownOperator operator => operator = "=" ∨ operator = "!"
  | .invalidArguments => False
  | .invalidNumber _ => False
  | .trailingInput _ => True

instance (failure : Option LexError) : DecidablePred (ParseError.Arises failure) := fun e => by
  cases e <;> unfold ParseError.Arises <;> infer_instance

/-- Whether the builder refuses no call that has its argument list. -/
def Builder.TakesArguments {N : Type} (B : Builder N) : Prop :=
  ∀ receiver method arguments e, B.invoke receiver method (some arguments) ≠ .error e

theorem Expr.takesArguments_builder : Expr.builder.TakesArguments := by
  intro receiver method arguments e h
  cases h

theorem Formula.takesArguments_builder : Formula.builder.TakesArguments := by
  intro receiver method arguments e h
  cases h

section Tokens

variable {t : Token}

/-- The only reserved word is `this`. -/
theorem Token.Valid.keyword_eq (h : t.Valid) (hk : t.kind = .keyword) : t.value = "this" := by
  have hs := h.spelling
  rw [hk] at hs
  have hkeyword := hs.2
  rw [String.ofList_toList, Symbol.isKeyword, List.contains_iff_mem] at hkeyword
  exact List.mem_singleton.mp hkeyword

/-- Two operators stand between no operands, and one opens a choice. -/
theorem Token.Valid.unknown_operator (h : t.Valid) (hk : t.kind = .operator)
    (hb : Symbol.isBinary t.value = false) :
    t.value = "?" ∨ t.value = "=" ∨ t.value = "!" := by
  have hs := h.spelling
  rw [hk] at hs
  have hlong : ∀ operator ∈ Symbol.triples ++ Symbol.pairs, Symbol.isBinary operator = true := by
    decide
  have hshort : ∀ c ∈ Symbol.operatorChars, Symbol.isBinary (String.ofList [c]) = false →
      String.ofList [c] = "?" ∨ String.ofList [c] = "=" ∨ String.ofList [c] = "!" :=
    forall_mem_of_all (by decide)
  obtain hmem | ⟨c, hc, hvalue⟩ := hs
  · rw [String.ofList_toList] at hmem
    rw [hlong _ hmem] at hb
    cases hb
  · rw [← String.ofList_toList (s := t.value), hvalue] at hb ⊢
    exact hshort c hc hb

end Tokens

namespace Parser

open Cursor

variable {N : Type} {B : Builder N}

/-- No step of the grammar comes to another error at valid tokens. -/
theorem covers_faults (hB : B.TakesArguments) (stream : Token.Stream) :
    (Terms.ofStream stream Token.Valid (ParseError.Arises stream.failure)).Covers B where
  lex _ h := h
  unexpected _ _ := trivial
  member _ := trivial
  trailing _ := trivial
  operator t ht hk hvalue hb := (ht.unknown_operator hk hb).resolve_left hvalue
  keyword t ht hk hvalue := absurd (ht.keyword_eq hk) hvalue
  integer t sign text ht hk hsign hnone := by
    have hs := ht.spelling
    rw [hk] at hs
    exact absurd hnone (ofDigits?_ne_none hsign hs)
  decimal t sign text ht hk hsign hnone := by
    have hs := ht.spelling
    rw [hk] at hs
    obtain ⟨whole, places, hw, hp, hvalue⟩ := hs
    exact absurd hnone (ofDecimal?_ne_none hsign hw hp hvalue)
  invoke receiver method arguments e h := absurd h (hB receiver method arguments e)

/-- The errors of a parse with a builder that takes every argument list. -/
theorem arises_of_parse (hB : B.TakesArguments) {source : String} {e : ParseError}
    (h : parse B source = .error e) : e.Arises (Token.Stream.ofText source).failure := by
  obtain ⟨-, hkeeps⟩ := complete_finishes (covers_faults hB (Token.Stream.ofText source))
    (fun t ht => valid_of_mem_stream ht) (Nat.le_refl _) (Nat.le_refl _)
  rw [parse, runStream] at h
  split at h
  · cases h
  · rename_i e' c hrun
    cases h
    rw [hrun] at hkeeps
    exact hkeeps.2
  · rename_i hrun
    rw [hrun] at hkeeps
    exact hkeeps.elim

/-- A source that is refused, as a plain tree or as a formula, is refused for the
fault of its scan, for a token that does not fit, for what stands after a dot, for
tokens left over, or for one of the two operators that stand between no operands:
never for its keywords, its numbers or its argument lists. -/
theorem parse_faults {source : String} {e : ParseError}
    (h : Expr.parse source = .error e ∨ Formula.parse source = .error e) :
    e.Arises (Token.Stream.ofText source).failure := by
  obtain h | h := h
  · exact arises_of_parse Expr.takesArguments_builder h
  · exact arises_of_parse Formula.takesArguments_builder h

/-- Each of these faults is that of some source. -/
theorem parse_faults_arise :
    Expr.parse "'a" = .error (.lex (.unterminatedString 0)) ∧
      ParseError.Arises (some (.unterminatedString 0)) (.lex (.unterminatedString 0)) ∧
    Expr.parse "a + )" = .error (.unexpectedToken "expression" "grouper ')'") ∧
      ParseError.Arises none (.unexpectedToken "expression" "grouper ')'") ∧
    Expr.parse "a.'b'" = .error (.expectedIdentifier "Literal") ∧
      ParseError.Arises none (.expectedIdentifier "Literal") ∧
    Expr.parse "a b" = .error (.trailingInput "identifier 'b'") ∧
      ParseError.Arises none (.trailingInput "identifier 'b'") ∧
    Expr.parse "a = b" = .error (.unknownOperator "=") ∧
      ParseError.Arises none (.unknownOperator "=") ∧
    Formula.parse "a ! b" = .error (.unknownOperator "!") ∧
      ParseError.Arises none (.unknownOperator "!") := by
  have hquote : Expr.parse "'a" = .error (.lex (.unterminatedString 0)) := by cbv
  have hbracket : Expr.parse "a + )" =
      .error (.unexpectedToken "expression" "grouper ')'") := by cbv
  have hdot : Expr.parse "a.'b'" = .error (.expectedIdentifier "Literal") := by cbv
  have hmore : Expr.parse "a b" = .error (.trailingInput "identifier 'b'") := by cbv
  have hequals : Expr.parse "a = b" = .error (.unknownOperator "=") := by cbv
  have hnot : Formula.parse "a ! b" = .error (.unknownOperator "!") := by cbv
  exact ⟨hquote, parse_faults (.inl hquote), hbracket, parse_faults (.inl hbracket),
    hdot, parse_faults (.inl hdot), hmore, parse_faults (.inl hmore),
    hequals, parse_faults (.inl hequals), hnot, parse_faults (.inr hnot)⟩

end Parser

end BindingLang
