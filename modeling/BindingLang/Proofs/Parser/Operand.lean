import BindingLang.Proofs.Parser.Adequacy
import BindingLang.Proofs.Parser.Extension
import BindingLang.Proofs.Token.Rank
/-!
  Operands: what stands between the operators of a chain.

  An operand is a text that parses on its own, with all operators in brackets
  but for one at the front: a constant, a name, a list, a map or something in
  parentheses, with postfixes behind it, and a sign or an operator before it.

  What is proved:
    1. `run_operand` — before neutral tokens an operand is first taken in part,
       and then completed by a tail of postfixes.
    2. `run_expression_of_operand`, `run_tails_of_operand` — an operand at the
       front of an expression, and behind an operator.
-/

namespace BindingLang

namespace Parser

/-- Whether the operators among the tokens are in brackets, but for one at the
front. -/
def isOperand : List Token → Bool
  | [] => false
  | t :: ts => if t.kind = .operator then flat 0 ts else flat 0 (t :: ts)

variable {N : Type} {B : Builder N} {ts us vs more : List Token} {node e : N}

theorem bounded_of_ranked (h : ∀ t ∈ ts, t.Ranked) : Bounded ts :=
  fun t ht => (h t ht).operator

/-- Behind the front of an operand all operators are in brackets. -/
theorem flat_of_unary {result : Yield N} (h : Run B .unary ts result us)
    (hs : isOperand ts = true) : flat 0 us = true := by
  cases h with
  | atom kind primary =>
    rw [isOperand, if_neg kind] at hs
    exact primary.flat_rest trivial hs
  | signed kind sign' number' reads =>
    rw [isOperand, if_pos kind] at hs
    refine flat_tail ?_ hs
    rcases number' with hk | hk
    · simp [hk]
    · simp [hk]
  | prefixed kind unsigned known primary tail =>
    rw [isOperand, if_pos kind] at hs
    exact tail.flat_rest trivial (primary.flat_rest trivial hs)

/-- Before neutral tokens an operand is taken in two parts: its front, and the
postfixes that complete it, if there are any. -/
theorem run_operand (h : Run B .expression ts (.node node) []) (hs : isOperand ts = true)
    (hr : ∀ t ∈ ts, t.Ranked) (hm : ∀ t ∈ more.head?, Neutral t) :
    ∃ inner ms, Run B .unary (ts ++ more) (.node inner) (ms ++ more) ∧
      Run B (.climb inner Symbol.tightest) (ms ++ more) (.node node) more ∧
      (ms = [] → inner = node) ∧
      ∀ t ∈ ms.head?, startsTail t = true ∧ t.precedence = Symbol.tightest := by
  cases h with
  | empty => cases hs
  | @whole ts ms us inner node first tail =>
    have hb := bounded_of_ranked hr
    have hflat := flat_of_unary first hs
    have htail := tail.climb_flat hflat (Nat.zero_le Symbol.tightest)
    refine ⟨inner, ms, first.extend hb (Or.inl trivial) hm, ?_, ?_, ?_⟩
    · exact htail.extend (hb.of_suffix first.suffix) (Or.inl (Nat.le_refl _)) hm
    · rintro rfl
      cases tail with
      | stop => rfl
    · intro t ht
      obtain ⟨rest, rfl⟩ := List.head?_eq_some_iff.mp ht
      have hstarts := tail.postfix_of_climb hflat
      refine ⟨?_, (hr t (first.suffix.mem List.mem_cons_self)).starter hstarts⟩
      obtain hk | hk | hk := hstarts
      · simp only [Token.isSymbol, Bool.and_eq_true, beq_iff_eq] at hk
        simp [startsTail, hk.1]
      · simp only [Token.isSymbol, Bool.and_eq_true, beq_iff_eq] at hk
        simp [startsTail, hk.1]
      · simp [startsTail, hk]

example : isOperand (Token.Stream.ofText "-(a + b).c(d, !e)[f ? g : h]").tokens = true := by
  decide

/-- An expression that begins with an operand goes on with the tail of it. -/
theorem run_expression_of_operand (h : Run B .expression ts (.node node) [])
    (hs : isOperand ts = true) (hr : ∀ t ∈ ts, t.Ranked) (hm : ∀ t ∈ more.head?, Neutral t)
    (tail : Run B (.climb node 0) more (.node e) vs) :
    Run B .expression (ts ++ more) (.node e) vs := by
  obtain ⟨inner, ms, hunary, hclimb, -, -⟩ := run_operand h hs hr hm
  exact .whole hunary (hclimb.climb_trans tail (Nat.zero_le _))

/-- Behind an operator the postfixes of an operand come first, as they bind
tighter than any operator. -/
theorem run_tails_of_operand (h : Run B .expression ts (.node node) [])
    (hs : isOperand ts = true) (hr : ∀ t ∈ ts, t.Ranked) (hm : ∀ t ∈ more.head?, Neutral t)
    {operator : Token} (ho : operator.precedence < Symbol.tightest)
    (tail : Run B (.tails operator node) more (.node e) vs) :
    ∃ inner us, Run B .unary (ts ++ more) (.node inner) us ∧
      Run B (.tails operator inner) us (.node e) vs := by
  obtain ⟨inner, ms, hunary, hclimb, hnil, hhead⟩ := run_operand h hs hr hm
  cases ms with
  | nil =>
    rw [hnil rfl] at hunary
    exact ⟨node, more, hunary, tail⟩
  | cons t ms =>
    obtain ⟨hstarts, hprec⟩ := hhead t rfl
    refine ⟨inner, t :: ms ++ more, hunary, ?_⟩
    rw [List.cons_append] at hclimb ⊢
    refine .tighter ⟨hstarts, by omega⟩ (hprec ▸ hclimb) ?_ tail
    rw [List.length_append]
    omega

end Parser

/-- An operand: a text that the scanner takes to its end, and its tree. -/
structure Operand where
  text : String
  tokens : List Token
  tree : Expr
  written : Written text.toList tokens
  shaped : Parser.isOperand tokens = true
  parses : Expr.parse text = .ok tree

namespace Operand

variable (x : Operand)

theorem run : Parser.Run Expr.builder .expression x.tokens (.node x.tree) [] := by
  obtain ⟨-, hrun⟩ := parse_eq_ok_iff.mp x.parses
  rw [x.written.stream_eq] at hrun
  exact hrun

theorem ranked : ∀ t ∈ x.tokens, t.Ranked := x.written.ranked

end Operand

end BindingLang
