import BindingLang.Proofs.Parser.Run
/-!
  Extension: runs with more tokens behind them, and runs put together.

  A token is neutral if no postfix starts with it and no operator binds tighter
  than a postfix: an operator, or a colon. Most runs do not notice neutral
  tokens behind the tokens they take. `Flat` tells of a token list that its
  operators are all in brackets; there a tail is made of postfixes only, and a
  minimum of precedence has no effect on it.

  What is proved:
    1. `RunWith.extend` — a run that does not end at the end of an expression goes
       the same way with neutral tokens behind its own.
    2. `RunWith.climb_trans` — a tail may be climbed in two steps.
    3. `RunWith.flat_rest` — a run takes as many opening as closing brackets.
    4. `RunWith.climb_flat` — postfixes are taken whatever the minimum is.
-/

namespace BindingLang

namespace Parser

variable {N : Type} {B : Builder N}

/-- Whether the token may follow an operand without being a postfix of it. -/
def Neutral (t : Token) : Prop :=
  (t.kind = .operator ∧ t.precedence < Symbol.tightest) ∨ t.kind = .colon

/-- Whether the operators among the tokens bind less tight than a postfix. -/
def Bounded (ts : List Token) : Prop :=
  ∀ t ∈ ts, t.kind = .operator → t.precedence < Symbol.tightest

/-- Whether the goal is through before a neutral token, even where its tokens
end. -/
def Goal.Closed : Goal N → Prop
  | .expression => False
  | .climb _ minimum => Symbol.tightest ≤ minimum
  | .tails _ _ => False
  | .unary => True
  | .primary => True
  | .items _ => True
  | .entries => True

theorem Neutral.not_extends {t : Token} (h : Neutral t) {minimum : Nat}
    (hm : Symbol.tightest ≤ minimum) : ¬ Extends minimum t := by
  simp only [Extends, Token.isSymbol]
  obtain ⟨hk, hlt⟩ | hk := h
  · simp [hk]
    omega
  · simp [hk]

theorem Neutral.not_open {t : Token} (h : Neutral t) : t.isSymbol .grouper "(" = false := by
  rw [← Bool.not_eq_true]
  intro ho
  exact h.not_extends (Nat.le_refl _) (Or.inl ho)

theorem Bounded.of_suffix {ts us : List Token} (h : Bounded ts) (hs : us <:+ ts) : Bounded us :=
  fun t ht => h t (hs.mem ht)

theorem Bounded.tail {t : Token} {ts : List Token} (h : Bounded (t :: ts)) : Bounded ts :=
  h.of_suffix (List.suffix_cons _ _)

theorem Bounded.lt {t : Token} {ts : List Token} (h : Bounded (t :: ts))
    (hk : t.kind = .operator) : t.precedence < Symbol.tightest :=
  h t List.mem_cons_self hk

theorem ne_nil_of_suffix {ts us : List Token} (hs : us <:+ ts) (h : us ≠ []) : ts ≠ [] := by
  rintro rfl
  exact h (List.suffix_nil.mp hs)

/-- What is asked of the first token of a list that is not empty may be asked of
it with more tokens behind. -/
theorem forall_head_append {P : Token → Prop} {ts : List Token} (hne : ts ≠ [])
    (h : ∀ t ∈ ts.head?, P t) (more : List Token) : ∀ t ∈ (ts ++ more).head?, P t := by
  cases ts with
  | nil => exact absurd rfl hne
  | cons t ts => exact h

namespace RunWith

variable {merge : List (String × N) → List (String × N)} {goal : Goal N}
  {result : Yield N} {ts us vs more : List Token}

/-- A run goes the same way with neutral tokens behind its own tokens, unless it
is one of an expression that ends with them. -/
theorem extend (h : RunWith merge B goal ts result us) (hb : Bounded ts)
    (hg : goal.Closed ∨ us ≠ []) (hm : ∀ t ∈ more.head?, Neutral t) :
    RunWith merge B goal (ts ++ more) result (us ++ more) := by
  -- A part that another follows ends before a token, so it is extended whatever
  -- it is; the last part is closed, or ends before a token, if the whole is.
  induction h with
  | empty => exact (hg.elim id fun h => h rfl).elim
  | whole first tail ihf iht =>
    have hne := hg.resolve_left id
    exact .whole (ihf hb (Or.inl trivial)) (iht (hb.of_suffix first.suffix) (Or.inr hne))
  | @stop left minimum ts ends =>
    refine .stop ?_
    by_cases hne : ts = []
    · subst hne
      exact fun t ht => (hm t ht).not_extends (hg.resolve_right fun h => h rfl)
    · exact forall_head_append hne ends more
  | call opens list builds tail ihl iht =>
    exact .call opens (ihl hb.tail (Or.inl trivial)) builds
      (iht (hb.tail.of_suffix list.suffix) hg)
  | index opens key closes tail ihk iht =>
    have hkey := ihk hb.tail (Or.inr (List.cons_ne_nil _ _))
    exact .index opens hkey closes (iht (hb.tail.of_suffix key.suffix).tail hg)
  | getter kind operand splits tail iho iht =>
    exact .getter kind (iho hb.tail (Or.inl trivial)) splits
      (iht (hb.tail.of_suffix operand.suffix) hg)
  | method kind operand splits builds tail iho iht =>
    exact .method kind (iho hb.tail (Or.inl trivial)) splits builds
      (iht (hb.tail.of_suffix operand.suffix) hg)
  | @ternary left whenTrue whenFalse node minimum mark colon ts us vs ws kind value binds first
      colons second tail ihf ihs iht =>
    -- An operator was taken, so the minimum is not that of postfixes.
    have hlt := hb.lt kind
    have hne : ws ≠ [] := hg.resolve_left fun (h : Symbol.tightest ≤ minimum) => by omega
    have hus := (hb.tail.of_suffix first.suffix).tail
    exact .ternary kind value binds (ihf hb.tail (Or.inr (List.cons_ne_nil _ _))) colons
      (ihs hus (Or.inr (ne_nil_of_suffix tail.suffix hne)))
      (iht (hus.of_suffix second.suffix) (Or.inr hne))
  | @binary left operand right node minimum operator ts us vs ws kind value binds known first second
      tail ihf ihs iht =>
    have hlt := hb.lt kind
    have hne : ws ≠ [] := hg.resolve_left fun (h : Symbol.tightest ≤ minimum) => by omega
    have hus := hb.tail.of_suffix first.suffix
    exact .binary kind value binds known (ihf hb.tail (Or.inl trivial))
      (ihs hus (Or.inr (ne_nil_of_suffix tail.suffix hne)))
      (iht (hus.of_suffix second.suffix) (Or.inr hne))
  | looser ends =>
    exact .looser (forall_head_append (hg.resolve_left id) ends more)
  | stuck tighter step ih => exact .stuck tighter (ih hb (Or.inr (List.cons_ne_nil _ _)))
  | @tighter operator next right extended node ts us vs tighter step moves tail ihs iht =>
    have hne := hg.resolve_left id
    refine .tighter tighter (ihs hb (Or.inr (ne_nil_of_suffix tail.suffix hne))) ?_
      (iht (hb.of_suffix step.suffix) (Or.inr hne))
    show (us ++ more).length ≤ (ts ++ more).length
    rw [List.length_append, List.length_append]
    omega
  | atom kind primary ih => exact .atom kind (ih hb (Or.inl trivial))
  | signed kind sign' number' reads => exact .signed kind sign' number' reads
  | @prefixed operator ts us vs operand node kind unsigned known primary tail ihp iht =>
    have hne : ts ≠ [] := by
      rintro rfl
      exact absurd primary.lt_of_primary (Nat.not_lt_zero _)
    exact .prefixed kind (forall_head_append hne unsigned more) known
      (ihp hb.tail (Or.inl trivial))
      (iht (hb.tail.of_suffix primary.suffix) (Or.inl (Nat.le_refl _)))
  | this kind value => exact .this kind value
  | constant reads => exact .constant reads
  | @name t ts kind noWord ends =>
    refine .name kind noWord ?_
    by_cases hne : ts = []
    · subst hne
      exact fun u hu => (hm u hu).not_open
    · exact forall_head_append hne ends more
  | nameCall kind noWord opens list builds ih =>
    exact .nameCall kind noWord opens (ih hb.tail.tail (Or.inl trivial)) builds
  | paren opens run closes ih =>
    exact .paren opens (ih hb.tail (Or.inr (List.cons_ne_nil _ _))) closes
  | map opens list ih => exact .map opens (ih hb.tail (Or.inl trivial))
  | list opens list ih => exact .list opens (ih hb.tail (Or.inl trivial))
  | itemsNone closes => exact .itemsNone closes
  | itemsLast opens run closes ih =>
    have hne := ne_nil_of_suffix run.suffix (List.cons_ne_nil _ _)
    exact .itemsLast (forall_head_append hne opens more)
      (ih hb (Or.inr (List.cons_ne_nil _ _))) closes
  | itemsMore opens run commas rest ihr ihs =>
    have hne := ne_nil_of_suffix run.suffix (List.cons_ne_nil _ _)
    exact .itemsMore (forall_head_append hne opens more)
      (ihr hb (Or.inr (List.cons_ne_nil _ _))) commas
      (ihs (hb.of_suffix run.suffix).tail (Or.inl trivial))
  | entriesNone closes => exact .entriesNone closes
  | entriesLast kind colons run closes ih =>
    exact .entriesLast kind colons (ih hb.tail.tail (Or.inr (List.cons_ne_nil _ _))) closes
  | entriesMore kind colons run commas rest ihr ihs =>
    exact .entriesMore kind colons (ihr hb.tail.tail (Or.inr (List.cons_ne_nil _ _))) commas
      (ihs (hb.tail.tail.of_suffix run.suffix).tail (Or.inl trivial))

/-- A tail may be climbed in two steps, the first of them to a higher minimum. -/
theorem climb_trans {left mid node : N} {minimum minimum' : Nat}
    (h : RunWith merge B (.climb left minimum) ts (.node mid) us)
    (h' : RunWith merge B (.climb mid minimum') us (.node node) vs) (hm : minimum' ≤ minimum) :
    RunWith merge B (.climb left minimum') ts (.node node) vs := by
  generalize hgoal : Goal.climb left minimum = goal at h
  generalize hresult : Yield.node mid = result at h
  -- Along the tail of the first run, which ends where the second one starts.
  induction h generalizing left with
  | stop ends =>
    cases hgoal
    cases hresult
    exact h'
  | call opens list builds tail ihl iht =>
    cases hgoal
    exact .call opens list builds (iht h' rfl hresult)
  | index opens key closes tail ihk iht =>
    cases hgoal
    exact .index opens key closes (iht h' rfl hresult)
  | getter kind operand splits tail iho iht =>
    cases hgoal
    exact .getter kind operand splits (iht h' rfl hresult)
  | method kind operand splits builds tail iho iht =>
    cases hgoal
    exact .method kind operand splits builds (iht h' rfl hresult)
  | ternary kind value binds first colons second tail ihf ihs iht =>
    cases hgoal
    exact .ternary kind value (Nat.le_trans hm binds) first colons second (iht h' rfl hresult)
  | binary kind value binds known first second tail ihf ihs iht =>
    cases hgoal
    exact .binary kind value (Nat.le_trans hm binds) known first second (iht h' rfl hresult)
  | _ => cases hgoal

end RunWith

/-! ## Brackets -/

/-- Whether the operators among the tokens are all in brackets, of which
`depth` are open before them. -/
def flat : Nat → List Token → Bool
  | _, [] => true
  | depth, t :: ts =>
    if t.kind = .grouper then
      if t.value ∈ ["(", "[", "\x7b"] then flat (depth + 1) ts else flat (depth - 1) ts
    else (depth != 0 || t.kind != .operator) && flat depth ts

/-- The number of brackets that are open before the goal and closed by it. -/
def Goal.depth : Goal N → Nat
  | .items _ => 1
  | .entries => 1
  | .expression => 0
  | .climb _ _ => 0
  | .tails _ _ => 0
  | .unary => 0
  | .primary => 0

section Flat

variable {t : Token} {ts : List Token} {depth : Nat}

theorem flat_tail (hk : t.kind ≠ .grouper) (h : flat depth (t :: ts) = true) :
    flat depth ts = true := by
  rw [flat, if_neg hk, Bool.and_eq_true] at h
  exact h.2

theorem flat_open {opener : String} (ho : opener ∈ ["(", "[", "\x7b"])
    (hs : t.isSymbol .grouper opener = true) (h : flat depth (t :: ts) = true) :
    flat (depth + 1) ts = true := by
  simp only [Token.isSymbol, Bool.and_eq_true, beq_iff_eq] at hs
  rw [flat, if_pos hs.1, if_pos (hs.2 ▸ ho)] at h
  exact h

theorem flat_close {closer : String} (hc : closer ∈ [")", "]", "\x7d"])
    (hs : t.isSymbol .grouper closer = true) (h : flat (depth + 1) (t :: ts) = true) :
    flat depth ts = true := by
  simp only [Token.isSymbol, Bool.and_eq_true, beq_iff_eq] at hs
  have hall : ∀ closer ∈ [")", "]", "\x7d"], closer ∉ ["(", "[", "\x7b"] := by decide
  have hno : t.value ∉ ["(", "[", "\x7b"] := hs.2 ▸ hall closer hc
  rw [flat, if_pos hs.1, if_neg hno, Nat.add_sub_cancel] at h
  exact h

theorem not_operator_of_flat (h : flat 0 (t :: ts) = true) : t.kind ≠ .operator := by
  intro hk
  simp [flat, hk] at h

end Flat

namespace RunWith

variable {merge : List (String × N) → List (String × N)} {goal : Goal N}
  {result : Yield N} {ts us : List Token}

/-- A run closes the brackets that it opens. -/
theorem flat_rest (h : RunWith merge B goal ts result us) (hc : goal.Closes) {depth : Nat}
    (hf : flat (depth + goal.depth) ts = true) : flat depth us = true := by
  induction h generalizing depth with
  | empty => exact hf
  | stop => exact hf
  | looser => exact hf
  | stuck => exact hf
  | whole first tail ihf iht => exact iht trivial (ihf trivial hf)
  | tighter tighter step moves tail ihs iht => exact iht trivial (ihs trivial hf)
  | call opens list builds tail ihl iht =>
    exact iht trivial (ihl (by simp [Goal.Closes]) (flat_open (by decide) opens hf))
  | index opens key closes tail ihk iht =>
    exact iht trivial (flat_close (by decide) closes
      (ihk trivial (flat_open (by decide) opens hf)))
  | getter kind operand splits tail iho iht =>
    exact iht trivial (iho trivial (flat_tail (by simp [kind]) hf))
  | method kind operand splits builds tail iho iht =>
    exact iht trivial (iho trivial (flat_tail (by simp [kind]) hf))
  | ternary kind value binds first colons second tail ihf ihs iht =>
    have hfirst := ihf trivial (flat_tail (by simp [kind]) hf)
    exact iht trivial (ihs trivial (flat_tail (by simp [colons]) hfirst))
  | binary kind value binds known first second tail ihf ihs iht =>
    exact iht trivial (ihs trivial (ihf trivial (flat_tail (by simp [kind]) hf)))
  | atom kind primary ih => exact ih trivial hf
  | signed kind sign' number' reads =>
    refine flat_tail ?_ (flat_tail (by simp [kind]) hf)
    rcases number' with hk | hk
    · simp [hk]
    · simp [hk]
  | prefixed kind unsigned known primary tail ihp iht =>
    exact iht trivial (ihp trivial (flat_tail (by simp [kind]) hf))
  | this kind value => exact flat_tail (by simp [kind]) hf
  | constant reads =>
    refine flat_tail ?_ hf
    cases reads with
    | word kind | string kind | integer kind | decimal kind => simp [kind]
  | name kind noWord ends => exact flat_tail (by simp [kind]) hf
  | nameCall kind noWord opens list builds ih =>
    exact ih (by simp [Goal.Closes]) (flat_open (by decide) opens (flat_tail (by simp [kind]) hf))
  | paren opens run closes ih =>
    exact flat_close (by decide) closes (ih trivial (flat_open (by decide) opens hf))
  | map opens list ih => exact ih trivial (flat_open (by decide) opens hf)
  | list opens list ih => exact ih (by simp [Goal.Closes]) (flat_open (by decide) opens hf)
  | itemsNone closes => exact flat_close hc closes hf
  | itemsLast opens run closes ih => exact flat_close hc closes (ih trivial hf)
  | itemsMore opens run commas rest ihr ihs =>
    exact ihs hc (flat_tail (by simp [commas]) (ihr trivial hf))
  | entriesNone closes => exact flat_close (by decide) closes hf
  | entriesLast kind colons run closes ih =>
    exact flat_close (by decide) closes
      (ih trivial (flat_tail (by simp [colons]) (flat_tail (by simp [kind]) hf)))
  | entriesMore kind colons run commas rest ihr ihs =>
    have hrun := ihr trivial (flat_tail (by simp [colons]) (flat_tail (by simp [kind]) hf))
    exact ihs trivial (flat_tail (by simp [commas]) hrun)

/-- Where all operators are in brackets, a tail is made of postfixes, which are
taken whatever the minimum is. -/
theorem climb_flat {left node : N} {minimum minimum' : Nat}
    (h : RunWith merge B (.climb left minimum) ts (.node node) us) (hf : flat 0 ts = true)
    (hm : minimum ≤ minimum') :
    RunWith merge B (.climb left minimum') ts (.node node) us := by
  generalize hgoal : Goal.climb left minimum = goal at h
  generalize hresult : Yield.node node = result at h
  induction h generalizing left with
  | stop ends =>
    cases hgoal
    cases hresult
    refine .stop fun t ht hx => ends t ht ?_
    exact hx.imp id (Or.imp id (Or.imp id (And.imp id (Nat.le_trans hm))))
  | call opens list builds tail ihl iht =>
    cases hgoal
    have hlist := list.flat_rest (by simp [Goal.Closes]) (flat_open (by decide) opens hf)
    exact .call opens list builds (iht hlist rfl hresult)
  | index opens key closes tail ihk iht =>
    cases hgoal
    have hkey := key.flat_rest trivial (flat_open (by decide) opens hf)
    exact .index opens key closes (iht (flat_close (by decide) closes hkey) rfl hresult)
  | getter kind operand splits tail iho iht =>
    cases hgoal
    have hoperand := operand.flat_rest trivial (flat_tail (by simp [kind]) hf)
    exact .getter kind operand splits (iht hoperand rfl hresult)
  | method kind operand splits builds tail iho iht =>
    cases hgoal
    have hoperand := operand.flat_rest trivial (flat_tail (by simp [kind]) hf)
    exact .method kind operand splits builds (iht hoperand rfl hresult)
  | ternary kind => exact absurd kind (not_operator_of_flat hf)
  | binary kind => exact absurd kind (not_operator_of_flat hf)
  | _ => cases hgoal

/-- A tail of postfixes that is not empty starts with one. -/
theorem postfix_of_climb {left node : N} {minimum : Nat} {t : Token}
    (h : RunWith merge B (.climb left minimum) (t :: ts) (.node node) [])
    (hf : flat 0 (t :: ts) = true) :
    t.isSymbol .grouper "(" = true ∨ t.isSymbol .grouper "[" = true ∨ t.kind = .dot := by
  cases h with
  | call opens => exact Or.inl opens
  | index opens => exact Or.inr (Or.inl opens)
  | getter kind => exact Or.inr (Or.inr kind)
  | method kind => exact Or.inr (Or.inr kind)
  | ternary kind => exact absurd kind (not_operator_of_flat hf)
  | binary kind => exact absurd kind (not_operator_of_flat hf)

end RunWith

end Parser

end BindingLang
