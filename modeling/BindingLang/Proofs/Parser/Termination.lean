import BindingLang.Proofs.Parser.Finishing
import BindingLang.Proofs.Token.Progress
/-!
  Termination: every parse comes to an end, and reads each token once.

  The recursion of the grammar is bounded by fuel, and its four loops are
  functions that call themselves. A loop is taken apart here into its turns: a
  `Turn` says whether the loop goes on, with what it has made, or is left with a
  result. A turn that goes on has taken a token, whatever it is made of; this is
  what keeps the loops from spinning, where a bracket stands that looks as if it
  went on with an operand and does not.

  What is proved:
    1. `climb_eq_loop` and its like — each loop repeats its turn.
    2. `takesToken_climb` and its like — a turn after which the loop goes on
       takes a token.
    3. `parse_terminates` — the parse of a source asks for no more tokens than
       there are and one for the end, and comes to the same with any fuel from a
       bound that is linear in the number of tokens.
-/

namespace BindingLang

/-- What a parse comes to with the result, at the place. -/
def Outcome.ofExcept {α : Type} (result : Except ParseError α) (c : Cursor) : Outcome α :=
  match result with
  | .ok a => .value a c
  | .error e => .error e c

namespace Parser

open Cursor

/-- What a turn of a loop comes to: the loop goes on, with what the turn has
made, or it is left with a result. -/
inductive Turn (α β : Type) where
  | again (made : α)
  | leave (result : β)

/-- The loop that a turn belongs to: it goes on as `again` says, or has come to
its result. -/
def Turn.andThen {α β : Type} (again : α → Parser β) : Turn α β → Parser β
  | .again made => again made
  | .leave result => pure result

section Turns

variable {N : Type} (B : Builder N)

/-- A turn of the loop that extends an operand by postfixes and operators. -/
def climbTurn (fuel : Nat) (left : N) (minimum : Nat) : Parser (Turn N N) := do
  match (← place).current with
  | none => pure (.leave left)
  | some token =>
    if token.isSymbol .grouper "(" then
      let arguments ← arguments B fuel
      .again <$> ofExcept (B.invoke left none arguments)
    else if token.isSymbol .grouper "[" then
      let argument ← subscript B fuel
      pure (.again (B.index left argument))
    else if token.kind = .dot then
      advance
      let right ← unary B fuel
      .again <$> memberOf B left right
    else if token.kind = .operator ∧ minimum ≤ token.precedence then
      if token.value = "?" then .again <$> ternary B fuel left
      else .again <$> binary B fuel left token
    else pure (.leave left)

/-- A turn of the loop that extends the right operand of an operator. -/
def tailsTurn (fuel : Nat) (operator : Token) (right : N) : Parser (Turn N N) := do
  match (← place).current with
  | none => pure (.leave right)
  | some next =>
    if startsTail next ∧ operator.precedence < next.precedence then
      let before := (← place).pulled
      let right ← climb B fuel right next.precedence
      if (← place).pulled = before then pure (.leave right) else pure (.again right)
    else pure (.leave right)

/-- A turn of the loop over the items of a list or the arguments of a call. -/
def itemsTurn (fuel : Nat) (closer : String) : Parser (Turn N (List N)) := do
  advance
  if (← place).isSymbol .grouper closer then
    expectSymbol .grouper closer
    pure (.leave [])
  else
    let item ← expression B fuel
    if (← place).isKind .comma then pure (.again item)
    else
      expectSymbol .grouper closer
      pure (.leave [item])

/-- A turn of the loop over the entries of a map. -/
def entriesTurn (fuel : Nat) : Parser (Turn (String × N) (List (String × N))) := do
  advance
  if (← place).isSymbol .grouper "\x7d" then
    expectSymbol .grouper "\x7d"
    pure (.leave [])
  else
    match (← place).current with
    | some key =>
      if key.kind = .string then
        advance
        expectKind .colon
        let node ← expression B fuel
        if (← place).isKind .comma then pure (.again (key.value, node))
        else
          expectSymbol .grouper "\x7d"
          pure (.leave [(key.value, node)])
      else unexpected "string key"
    | none => unexpected "string key"

end Turns

section Loops

variable {α β γ : Type} {N : Type} {B : Builder N} {n : Nat}

theorem bind_bind (p : Parser α) (f : α → Parser β) (g : β → Parser γ) :
    p >>= f >>= g = p >>= fun a => f a >>= g := by
  funext c
  simp only [bind_apply]
  cases p c <;> rfl

theorem map_bind' (f : α → β) (p : Parser α) (g : β → Parser γ) :
    (f <$> p) >>= g = p >>= fun a => g (f a) :=
  bind_bind p (fun a => pure (f a)) g

theorem pure_bind' (a : α) (f : α → Parser β) : pure a >>= f = f a := rfl

theorem ite_bind (condition : Prop) [Decidable condition] (p q : Parser α) (f : α → Parser β) :
    (if condition then p else q) >>= f = if condition then p >>= f else q >>= f := by
  split <;> rfl

/-- A turn that looks at the place first is that of the place. -/
theorem place_bind_bind (f : Cursor → Parser α) (g : α → Parser β) (c : Cursor) :
    (place >>= f >>= g) c = (f c >>= g) c := rfl

theorem climb_eq_loop (left : N) (minimum : Nat) : climb B (n + 1) left minimum =
    climbTurn B n left minimum >>= Turn.andThen fun node => climb B n node minimum := by
  funext c
  rw [climb, climbTurn, place_bind_apply, place_bind_bind]
  cases c.current with
  | none => rfl
  | some token => simp only [ite_bind, bind_bind, map_bind', pure_bind', Turn.andThen]

theorem tails_eq_loop (operator : Token) (right : N) : tails B (n + 1) operator right =
    tailsTurn B n operator right >>= Turn.andThen fun node => tails B n operator node := by
  funext c
  rw [tails, tailsTurn, place_bind_apply, place_bind_bind]
  cases c.current with
  | none => rfl
  | some next => simp only [ite_bind, bind_bind, pure_bind', Turn.andThen]

theorem items_eq_loop (closer : String) : items B (n + 1) closer =
    itemsTurn B n closer >>= Turn.andThen fun item => (item :: ·) <$> items B n closer := by
  rw [items, itemsTurn]
  simp only [ite_bind, bind_bind, pure_bind', Turn.andThen]
  rfl

theorem entries_eq_loop : entries B (n + 1) =
    entriesTurn B n >>= Turn.andThen fun entry => (entry :: ·) <$> entries B n := by
  rw [entries, entriesTurn, bind_bind]
  refine congrArg (advance >>= ·) ?_
  funext _ c
  rw [place_bind_apply, place_bind_bind, ite_bind]
  split
  · rw [bind_bind]
    rfl
  · rw [place_bind_apply, place_bind_bind]
    cases c.current with
    | none => rfl
    | some key => simp only [ite_bind, bind_bind, pure_bind', Turn.andThen]; rfl

end Loops

/-! ## Turns -/

/-- Whether a turn after which the loop goes on takes a token, wherever it starts
in a stream. -/
def TakesToken {α β : Type} (turn : Parser (Turn α β)) : Prop :=
  ∀ {failure : Option LexError} {total : Nat} {ts : List Token} {made : α} {c : Cursor},
    ts.length < total → turn (facing failure total ts) = .value (.again made) c →
      ∃ us, c = facing failure total us ∧ us <:+ ts ∧ us.length < ts.length

section TakesToken

variable {N : Type} {B : Builder N} (n : Nat)

/-- Behind the end of a stream there is nothing to look at. -/
theorem current_of_advance_nil {failure : Option LexError} {total : Nat} {c : Cursor}
    (h : advance (facing failure total []) = .value () c) : c.current = none := by
  cases failure with
  | none => cases h; rfl
  | some e => cases h

/-- The empty expression takes nothing. -/
theorem expression_of_current_none {c c' : Cursor} {node : N} (hc : c.current = none)
    (h : expression B n c = .value node c') : c' = c := by
  cases n with
  | zero => cases h
  | succ n =>
    rw [expression, place_bind_apply, hc] at h
    cases h
    rfl

theorem takesToken_climb (left : N) (minimum : Nat) : TakesToken (climbTurn B n left minimum) := by
  intro failure total ts made c hlt h
  rw [climbTurn, place_bind_apply] at h
  cases ts with
  | nil => cases h
  | cons t ts =>
    rw [List.length_cons] at hlt
    simp only [current_facing_cons] at h
    -- What follows the token is a rear part of the tokens behind it.
    have taken {us : List Token} (hs : us <:+ ts) : us <:+ t :: ts ∧ us.length < (t :: ts).length :=
      ⟨hs.trans (List.suffix_cons t ts), Nat.lt_succ_of_le hs.length_le⟩
    split at h
    · rename_i opens
      obtain ⟨nodes, c₁, hnodes, h₁⟩ := bind_eq_value h
      obtain ⟨node, h₂, -⟩ := map_eq_value h₁
      obtain ⟨-, rfl⟩ := ofExcept_eq_value h₂
      cases nodes with
      | none =>
        have hclosed := ((sound n).noArguments hnodes).2 t rfl
        rw [opens] at hclosed
        cases hclosed
      | some nodes =>
        obtain ⟨us, rfl, -, opener, rest, heq, -, list⟩ := (sound n).arguments hlt hnodes
        cases heq
        exact ⟨us, rfl, taken list.suffix⟩
    split at h
    · obtain ⟨key, c₁, hkey, h₁⟩ := bind_eq_value h
      cases h₁
      obtain ⟨us, rfl, -, closer, run, -⟩ := (sound n).subscript hlt hkey
      exact ⟨us, rfl, taken ((List.suffix_cons _ _).trans run.suffix)⟩
    split at h
    · obtain ⟨-, h₁⟩ := advance_bind_eq_value (Nat.lt_of_succ_lt hlt) h
      obtain ⟨right, c₂, hright, h₂⟩ := bind_eq_value h₁
      obtain ⟨node, h₃, -⟩ := map_eq_value h₂
      obtain ⟨rfl, operand, rfl, -⟩ := memberOf_eq_value h₃
      obtain ⟨us, rfl, -, run⟩ := (sound n).unary (Nat.lt_of_succ_lt hlt) hright
      exact ⟨us, rfl, taken run.suffix⟩
    split at h
    · split at h
      · obtain ⟨node, h₁, -⟩ := map_eq_value h
        obtain ⟨us, rfl, -, whenTrue, whenFalse, colon, ms, first, -, second, -⟩ :=
          (sound n).ternary hlt h₁
        exact ⟨us, rfl, taken (second.suffix.trans ((List.suffix_cons _ _).trans first.suffix))⟩
      · obtain ⟨node, h₁, -⟩ := map_eq_value h
        obtain ⟨-, us, rfl, -, operand, right, ms, first, second, -⟩ := (sound n).binary hlt h₁
        exact ⟨us, rfl, taken (second.suffix.trans first.suffix)⟩
    · cases h

theorem takesToken_tails (operator : Token) (right : N) :
    TakesToken (tailsTurn B n operator right) := by
  intro failure total ts made c hlt h
  rw [tailsTurn, place_bind_apply] at h
  cases ts with
  | nil => cases h
  | cons t ts =>
    simp only [current_facing_cons] at h
    split at h
    · rw [place_bind_apply] at h
      obtain ⟨node, c₁, hclimb, h₁⟩ := bind_eq_value h
      obtain ⟨us, rfl, -, run⟩ := (sound n).climb hlt hclimb
      have hle := run.length_le
      rw [place_bind_apply] at h₁
      split at h₁
      · cases h₁
      · rename_i moved
        cases h₁
        simp only [pulled_facing, List.length_cons] at moved hle hlt ⊢
        exact ⟨us, rfl, run.suffix, by omega⟩
    · cases h

/-- Only a token can be followed by a comma: behind the end of a stream there is none. -/
theorem takesToken_items (closer : String) : TakesToken (itemsTurn B n closer) := by
  intro failure total ts made c hlt h
  rw [itemsTurn] at h
  cases ts with
  | nil =>
    obtain ⟨_, c₁, hadvance, h₁⟩ := bind_eq_value h
    have hnone := current_of_advance_nil hadvance
    rw [place_bind_apply, if_neg (by simp [isSymbol, hnone])] at h₁
    obtain ⟨item, c₂, hitem, h₂⟩ := bind_eq_value h₁
    obtain rfl := expression_of_current_none n hnone hitem
    rw [place_bind_apply, if_neg (by simp [isKind, hnone])] at h₂
    obtain ⟨_, c₃, -, h₃⟩ := bind_eq_value h₂
    cases h₃
  | cons t ts =>
    obtain ⟨-, h₁⟩ := advance_bind_eq_value (Nat.lt_of_succ_lt hlt) h
    rw [place_bind_apply] at h₁
    split at h₁
    · obtain ⟨_, c₂, -, h₂⟩ := bind_eq_value h₁
      cases h₂
    · obtain ⟨item, c₂, hitem, h₂⟩ := bind_eq_value h₁
      obtain ⟨us, rfl, -, run⟩ := (sound n).expression (Nat.lt_of_succ_lt hlt) hitem
      rw [place_bind_apply] at h₂
      split at h₂
      · cases h₂
        exact ⟨us, rfl, run.suffix.trans (List.suffix_cons t ts), Nat.lt_succ_of_le run.length_le⟩
      · obtain ⟨_, c₃, -, h₃⟩ := bind_eq_value h₂
        cases h₃

theorem takesToken_entries : TakesToken (entriesTurn B n) := by
  intro failure total ts made c hlt h
  rw [entriesTurn] at h
  cases ts with
  | nil =>
    obtain ⟨_, c₁, hadvance, h₁⟩ := bind_eq_value h
    have hnone := current_of_advance_nil hadvance
    rw [place_bind_apply, if_neg (by simp [isSymbol, hnone]), place_bind_apply, hnone] at h₁
    cases h₁
  | cons t ts =>
    rw [List.length_cons] at hlt
    obtain ⟨-, h₁⟩ := advance_bind_eq_value (Nat.lt_of_succ_lt hlt) h
    rw [place_bind_apply] at h₁
    split at h₁
    · obtain ⟨_, c₂, -, h₂⟩ := bind_eq_value h₁
      cases h₂
    rw [place_bind_apply] at h₁
    cases ts with
    | nil => cases h₁
    | cons key ts =>
      rw [List.length_cons] at hlt
      simp only [current_facing_cons] at h₁
      split at h₁
      · obtain ⟨-, h₂⟩ := advance_bind_eq_value (by omega) h₁
        obtain ⟨_, c₃, hcolon, h₃⟩ := bind_eq_value h₂
        obtain ⟨colon, ms, rfl, -, rfl, -⟩ := expectKind_eq_value (by omega) hcolon
        rw [List.length_cons] at hlt
        obtain ⟨value, c₄, hvalue, h₄⟩ := bind_eq_value h₃
        obtain ⟨us, rfl, -, run⟩ := (sound n).expression (by omega) hvalue
        rw [place_bind_apply] at h₄
        split at h₄
        · cases h₄
          have hs := run.length_le
          refine ⟨us, rfl, ?_, by simp only [List.length_cons]; omega⟩
          exact run.suffix.trans (List.suffix_append [t, key, colon] ms)
        · obtain ⟨_, c₅, -, h₅⟩ := bind_eq_value h₄
          cases h₅
      · cases h₁

end TakesToken

/-! ## Parses -/

/-- Whether the loops of the grammar repeat their turns, and a turn after which a
loop goes on takes a token. -/
structure LoopsTakeTokens {N : Type} (B : Builder N) : Prop where
  climb : ∀ n left minimum,
    climb B (n + 1) left minimum =
      climbTurn B n left minimum >>= Turn.andThen (fun node => climb B n node minimum) ∧
    TakesToken (climbTurn B n left minimum)
  tails : ∀ n operator right,
    tails B (n + 1) operator right =
      tailsTurn B n operator right >>= Turn.andThen (fun node => tails B n operator node) ∧
    TakesToken (tailsTurn B n operator right)
  items : ∀ n closer,
    items B (n + 1) closer =
      itemsTurn B n closer >>= Turn.andThen (fun item => (item :: ·) <$> items B n closer) ∧
    TakesToken (itemsTurn B n closer)
  entries : ∀ n,
    entries B (n + 1) =
      entriesTurn B n >>= Turn.andThen (fun entry => (entry :: ·) <$> entries B n) ∧
    TakesToken (entriesTurn B n)

theorem loopsTakeTokens {N : Type} (B : Builder N) : LoopsTakeTokens B where
  climb n left minimum := ⟨climb_eq_loop left minimum, takesToken_climb n left minimum⟩
  tails n operator right := ⟨tails_eq_loop operator right, takesToken_tails n operator right⟩
  items n closer := ⟨items_eq_loop closer, takesToken_items n closer⟩
  entries n := ⟨entries_eq_loop, takesToken_entries n⟩

/-- Whatever can happen to a stream is permitted if everything is. -/
theorem covers_anything {N : Type} (stream : Token.Stream) (B : Builder N) :
    (Terms.ofStream stream (fun _ => True) fun _ => True).Covers B := by
  constructor <;> intros <;> simp [Terms.ofStream]

/-- With enough fuel a stream comes to a value or to an error, at one place. -/
theorem complete_eq_ofExcept {N : Type} (B : Builder N) (stream : Token.Stream) :
    ∃ (result : Except ParseError N) (c : Cursor),
      c.pulled ≤ stream.tokens.length + 1 ∧
      (∀ node, result = .ok node → c.pulled = stream.tokens.length + 1) ∧
      ∀ fuel, fuelFor stream.tokens.length ≤ fuel →
        complete B fuel (ofStream stream) = .ofExcept result c := by
  have hfinish {fuel : Nat} (hfuel : fuelFor stream.tokens.length ≤ fuel) :=
    complete_finishes (covers_anything stream B) (fun _ _ => trivial) (Nat.le_refl _) hfuel
  have hkeeps := (hfinish (Nat.le_refl _)).2
  cases hrun : complete B (fuelFor stream.tokens.length) (ofStream stream) with
  | value node c =>
    rw [hrun] at hkeeps
    obtain ⟨us, rfl, -, rfl⟩ := hkeeps
    refine ⟨.ok node, facing stream.failure (stream.tokens.length + 1) [], Nat.sub_le _ _,
      fun _ _ => rfl, fun fuel hfuel => ?_⟩
    rw [(hfinish hfuel).1, hrun]
    rfl
  | error e c =>
    rw [hrun] at hkeeps
    refine ⟨.error e, c, hkeeps.1, fun _ h => (by cases h), fun fuel hfuel => ?_⟩
    rw [(hfinish hfuel).1, hrun]
    rfl
  | exhausted => rw [hrun] at hkeeps; exact hkeeps.elim

/-- The parse of a source comes to its result at one place, whatever the fuel from
a bound linear in the number of tokens; there it has asked for all tokens and the
end if it succeeds, and for no more if it fails. The tokens themselves do not
depend on the scanner's fuel, and no loop of the grammar goes on without taking a
token. -/
theorem parse_terminates {N : Type} (B : Builder N) (source : String) :
    let stream := Token.Stream.ofText source
    (∃ c : Cursor,
      c.pulled ≤ stream.tokens.length + 1 ∧
      (∀ node, parse B source = .ok node → c.pulled = stream.tokens.length + 1) ∧
      ∀ fuel, fuelFor stream.tokens.length ≤ fuel →
        complete B fuel (ofStream stream) = .ofExcept (parse B source) c) ∧
    (∀ fuel, source.length < fuel → (Scanner.ofText source).streamWithin fuel = stream) ∧
    LoopsTakeTokens B := by
  intro stream
  refine ⟨?_, fun fuel hfuel => ?_, loopsTakeTokens B⟩
  · obtain ⟨result, c, hpulled, hend, hsame⟩ := complete_eq_ofExcept B stream
    have hparse : parse B source = result := by
      rw [parse, runStream, hsame _ (Nat.le_refl _)]
      cases result <;> rfl
    rw [hparse]
    exact ⟨c, hpulled, hend, hsame⟩
  · exact streamWithin_eq_stream (by rwa [← String.length_toList] at hfuel)

end Parser

end BindingLang
