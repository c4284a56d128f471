import BindingLang.Proofs.Parser.Locality
import BindingLang.Proofs.Parser.Termination
import Mathlib
/-!
  Syntax errors are settled by the tokens that have been asked for.

  A parse that fails has asked for some tokens, and the parse is local: at another
  source that begins with them it comes to the same. Whether the stream ends behind
  the tokens or fails there is seen only once the end has been asked for.

  What is proved:
    1. `parse_error_settled` — a syntax error is that of every source that begins
       with the tokens asked for, which has an end where the end was asked for too.
-/

namespace BindingLang

namespace Parser

open Cursor

variable {N : Type} {k : Nat}

/-- A stream that fails has no end to ask for. -/
theorem failure_eq_none_of_settles {stream : Token.Stream} {e : ParseError} {c : Cursor}
    {other : Outcome N} (h : (Outcome.error e c).Settles k (ofStream stream) other)
    (hscan : ∀ fault, e ≠ .lex fault) (hend : stream.tokens.length < c.pulled) :
    stream.failure = none := by
  cases hfailure : stream.failure with
  | none => rfl
  | some fault =>
    have hne : stream.failure ≠ none := by
      rw [hfailure]
      exact Option.some_ne_none fault
    have hwithin : c.pulled + c.rest.length = 0 + stream.tokens.length :=
      (h.2.1 hscan).within hne
    omega

/-- A syntax error is settled by the tokens that have been asked for. Every source that
begins with the same tokens is refused for the same reason at the same token, whatever
comes behind them; and where the end of the stream has been asked for as well, every
source that has the same tokens and comes to an end. -/
theorem parse_error_settled (B : Builder N) {source : String} {e : ParseError}
    (h : parse B source = .error e) (hscan : ∀ fault, e ≠ .lex fault) :
    ∃ c, runStream B (.ofText source) = .error e c ∧
      c.pulled ≤ (Token.Stream.ofText source).tokens.length + 1 ∧
      ∀ other,
        (Token.Stream.ofText other).tokens.take c.pulled =
          (Token.Stream.ofText source).tokens.take c.pulled →
        ((Token.Stream.ofText source).tokens.length < c.pulled →
          (Token.Stream.ofText other).failure = none) →
        parse B other = .error e ∧
          ∃ c', runStream B (.ofText other) = .error e c' ∧ c'.pulled = c.pulled := by
  obtain ⟨result, c, hle, -, hrun⟩ := complete_eq_ofExcept B (.ofText source)
  have hsource : runStream B (.ofText source) = .error e c := by
    have hfinal := hrun _ (Nat.le_refl _)
    rw [parse, runStream, hfinal] at h
    rw [runStream, hfinal]
    cases result with
    | ok node => cases h
    | error e' =>
      cases h
      rfl
  refine ⟨c, hsource, hle, ?_⟩
  intro other hfront hend
  -- A fuel that is enough for both sources.
  obtain ⟨fuel, hfuel, hfuel'⟩ : ∃ fuel,
      fuelFor (Token.Stream.ofText source).tokens.length ≤ fuel ∧
      fuelFor (Token.Stream.ofText other).tokens.length ≤ fuel :=
    ⟨_, Nat.le_max_left _ _, Nat.le_max_right _ _⟩
  obtain ⟨result', c', -, -, hrun'⟩ := complete_eq_ofExcept B (.ofText other)
  have hcomplete : complete B fuel (ofStream (.ofText source)) = .error e c := by
    rw [hrun fuel hfuel, ← hrun _ (Nat.le_refl _)]
    exact hsource
  have hsettles (d : Cursor) (hd : (ofStream (.ofText source)).Agrees c.pulled d) :
      (Outcome.error e c).Settles c.pulled (ofStream (.ofText source)) (complete B fuel d) := by
    rw [← hcomplete]
    exact local_complete B c.pulled fuel _ d hd
  have hsame : (ofStream (.ofText source)).Agrees c.pulled (ofStream (.ofText other)) := by
    refine ⟨rfl, rfl, hfront.symm, ?_⟩
    intro hlt
    have hself := hsettles _ ⟨rfl, rfl, rfl, fun _ => rfl⟩
    exact (failure_eq_none_of_settles hself hscan hlt).trans (hend hlt).symm
  obtain ⟨d, hd, hpulled⟩ := (hsettles _ hsame).2.2 (Nat.le_refl _)
  rw [hrun' fuel hfuel', ← hrun' _ (Nat.le_refl _)] at hd
  have hother : runStream B (.ofText other) = .error e d := hd
  refine ⟨?_, d, hother, hpulled⟩
  rw [parse, hother]

/-- What stands behind the tokens is not scanned where the bracket is met, and is no token
where the end is. -/
theorem parse_error_settled_sample :
    Expr.parse "a + )" = .error (.unexpectedToken "expression" "grouper ')'") ∧
    Expr.parse "a + ) 'x" = .error (.unexpectedToken "expression" "grouper ')'") ∧
    Expr.parse "a +" = .error (.unexpectedToken "expression" "end of input") ∧
    Expr.parse "a + # b" = .error (.unexpectedToken "expression" "end of input") := by
  have hbracket : Expr.parse "a + )" = .error (.unexpectedToken "expression" "grouper ')'") := by
    cbv
  have hend : Expr.parse "a +" = .error (.unexpectedToken "expression" "end of input") := by
    cbv
  obtain ⟨c, hrun, -, hsettled⟩ := parse_error_settled Expr.builder hbracket (by simp)
  obtain ⟨d, hrun', -, hlater⟩ := parse_error_settled Expr.builder hend (by simp)
  have hc : c.pulled = 3 := by
    have heq : runStream Expr.builder (.ofText "a + )") = .error
      (.unexpectedToken "expression" "grouper ')'") ⟨some ⟨.grouper, ")", 0⟩, [], none, 3⟩ := by cbv
    rw [heq] at hrun
    cases hrun
    rfl
  have hd : d.pulled = 3 := by
    have heq : runStream Expr.builder (.ofText "a +") = .error
      (.unexpectedToken "expression" "end of input") ⟨none, [], none, 3⟩ := by cbv
    rw [heq] at hrun'
    cases hrun'
    rfl
  refine ⟨hbracket, (hsettled "a + ) 'x" ?_ ?_).1, hend, (hlater "a + # b" ?_ ?_).1⟩
  · rw [hc]
    cbv
  · have hlength : (Token.Stream.ofText "a + )").tokens.length = 3 := by cbv
    rw [hc, hlength]
    exact fun hlt => absurd hlt (Nat.lt_irrefl 3)
  · rw [hd]
    cbv
  · intro _
    cbv

end Parser

end BindingLang
