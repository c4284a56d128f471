import BindingLang.Proofs.Expr.Grouping
import BindingLang.Proofs.Parser.Operand
import BindingLang.Proofs.Parser.RoundTrip
/-!
  Chains: precedence climbing over operands and operators.

  A chain is an operand and joints, each an operator and an operand, with blanks
  between all of them; a phrase is a chain, or a choice between a chain and a
  phrase. The parser climbs a chain with two functions that call each other, of
  which one raises its minimum to the precedence of whatever operator it meets.
  `Climbed` says what either has done to a chain: it has moved operators and
  operands from the front of the joints into a well grouped tree.

  What is proved:
    1. `climbs_and_tails` — before joints of any number both functions have a
       run, and what they leave does not bind tight enough for them.
    2. `run_chain` — a chain runs to its well grouped tree.
    3. `Phrase.written` — the text of a phrase scans to its tokens.
    4. `Phrase.parse_eq` — a phrase parses to the one tree it means.
-/

namespace BindingLang

/-- Blanks between two tokens. -/
structure Gap where
  text : String
  nonempty : text.toList ≠ []
  blank : ∀ c ∈ text.toList, Text.isBlank c = true

/-- An operator between two operands, and the second of them. -/
structure Joint where
  before : Gap
  operator : String
  known : operator ∈ Symbol.binaryOperators
  after : Gap
  operand : Operand

namespace Joint

/-- The joint without its text. -/
def pair (j : Joint) : String × Expr := (j.operator, j.operand.tree)

/-- How tightly the operator binds. -/
def precedence (j : Joint) : Nat := Symbol.precedence j.operator

/-- The text of joints, from the blanks before the first. -/
def texts : List Joint → String
  | [] => ""
  | j :: joints =>
    j.before.text ++ (j.operator ++ (j.after.text ++ (j.operand.text ++ texts joints)))

/-- The tokens of joints. -/
def tokens : List Joint → List Token
  | [] => []
  | j :: joints => operatorToken j.operator :: (j.operand.tokens ++ tokens joints)

/-- An operator between operands binds tighter than a choice, and less tight
than a postfix. -/
theorem precedence_bounds (j : Joint) : 2 ≤ j.precedence ∧ j.precedence < Symbol.tightest := by
  have hall : ∀ operator ∈ Symbol.binaryOperators,
      2 ≤ Symbol.precedence operator ∧ Symbol.precedence operator < Symbol.tightest := by decide
  exact hall j.operator j.known

theorem operator_ne (j : Joint) : j.operator ≠ "?" := by
  have hall : ∀ operator ∈ Symbol.binaryOperators, operator ≠ "?" := by decide
  exact hall j.operator j.known

theorem length_tokens_le {js joints : List Joint} (h : js <:+ joints) :
    (tokens js).length ≤ (tokens joints).length := by
  induction joints with
  | nil =>
    obtain rfl := List.suffix_nil.mp h
    exact Nat.le_refl _
  | cons j joints ih =>
    obtain rfl | h := List.suffix_cons_iff.mp h
    · exact Nat.le_refl _
    · have := ih h
      simp only [tokens, List.length_cons, List.length_append]
      omega

end Joint

/-- An operand and joints behind it. -/
structure Chain where
  first : Operand
  joints : List Joint

/-- A chain, or a choice: `condition ? whenTrue : whenFalse`. -/
inductive Phrase where
  | chain (c : Chain)
  | choice (condition : Chain) (beforeMark afterMark : Gap) (whenTrue : Chain)
      (beforeColon afterColon : Gap) (whenFalse : Phrase)

namespace Chain

def text (c : Chain) : String := c.first.text ++ Joint.texts c.joints

def tokens (c : Chain) : List Token := c.first.tokens ++ Joint.tokens c.joints

/-- Whether the tree is well grouped, and has the operands and the operators of
the chain in their order. -/
structure Groups (c : Chain) (g : Grouping) : Prop where
  first : g.first = c.first.tree
  rest : g.rest = c.joints.map Joint.pair
  grouped : g.WellGrouped

theorem Groups.unique {c : Chain} {g g' : Grouping} (h : c.Groups g) (h' : c.Groups g') :
    g = g' :=
  Grouping.eq_of_wellGrouped h.grouped h'.grouped (h.first.trans h'.first.symm)
    (h.rest.trans h'.rest.symm)

end Chain

namespace Phrase

/-- The text of a phrase. -/
def text : Phrase → String
  | .chain c => c.text
  | .choice condition beforeMark afterMark whenTrue beforeColon afterColon whenFalse =>
    condition.text ++ (beforeMark.text ++ ("?" ++ (afterMark.text ++ (whenTrue.text ++
      (beforeColon.text ++ (":" ++ (afterColon.text ++ text whenFalse)))))))

/-- The tokens of a phrase. -/
def tokens : Phrase → List Token
  | .chain c => c.tokens
  | .choice condition _ _ whenTrue _ _ whenFalse =>
    condition.tokens ++ operatorToken "?" :: (whenTrue.tokens ++ colonToken :: tokens whenFalse)

/-- Whether the phrase means the tree: a chain means its well grouped tree, a
choice the ternary of what its parts mean. -/
inductive Means : Phrase → Expr → Prop where
  | chain {c : Chain} {g : Grouping} (groups : c.Groups g) : Means (.chain c) g.toExpr
  | choice {condition whenTrue : Chain} {beforeMark afterMark beforeColon afterColon : Gap}
      {whenFalse : Phrase} {g g' : Grouping} {e : Expr} (conditionGroups : condition.Groups g)
      (trueGroups : whenTrue.Groups g') (falseMeans : Means whenFalse e) :
      Means (.choice condition beforeMark afterMark whenTrue beforeColon afterColon whenFalse)
        (.ternary g.toExpr g'.toExpr e)

/-- A phrase means one tree at most. -/
theorem Means.unique {p : Phrase} {e e' : Expr} (h : p.Means e) (h' : p.Means e') : e = e' := by
  induction h generalizing e' with
  | chain groups =>
    cases h' with
    | chain groups' => rw [groups.unique groups']
  | choice conditionGroups trueGroups falseMeans ih =>
    cases h' with
    | choice conditionGroups' trueGroups' falseMeans' =>
      rw [conditionGroups.unique conditionGroups', trueGroups.unique trueGroups', ih falseMeans']

end Phrase

/-! ## Climbing -/

namespace Parser

open Joint

/-- Whether the token ends a chain: a colon, or an operator that binds less
tight than all of the chain's. -/
def EndsChain (t : Token) : Prop := t.kind = .colon ∨ (t.kind = .operator ∧ t.precedence < 2)

variable {more : List Token}

theorem EndsChain.neutral {t : Token} (h : EndsChain t) : Neutral t := by
  obtain hk | ⟨hk, hlt⟩ := h
  · exact Or.inr hk
  · exact Or.inl ⟨hk, Nat.lt_of_lt_of_le hlt (by decide)⟩

theorem EndsChain.not_extends {t : Token} (h : EndsChain t) {minimum : Nat} (hm : 2 ≤ minimum) :
    ¬ Extends minimum t := by
  simp only [Extends, Token.isSymbol]
  obtain hk | ⟨hk, hlt⟩ := h
  · simp [hk]
  · simp [hk]
    omega

theorem EndsChain.not_tighter {t : Token} (h : EndsChain t) (j : Joint) :
    ¬ Tighter (operatorToken j.operator) t := by
  rintro ⟨hstarts, hlt⟩
  obtain hk | ⟨hk, hlt'⟩ := h
  · simp [startsTail, hk] at hstarts
  · have hbounds : 2 ≤ (operatorToken j.operator).precedence := j.precedence_bounds.1
    omega

/-- What stands behind joints is neutral for the operand before them. -/
theorem neutral_of_joints (joints : List Joint) (hm : ∀ t ∈ more.head?, EndsChain t) :
    ∀ t ∈ (Joint.tokens joints ++ more).head?, Neutral t := by
  cases joints with
  | nil => exact fun t ht => (hm t ht).neutral
  | cons j joints =>
    rintro t ⟨⟩
    exact Or.inl ⟨rfl, j.precedence_bounds.2⟩

/-- From `g` and `joints` the parser has come to `g'` and `js`: operands and
operators have been moved from the front of the joints to the end of the tree,
which is still well grouped. -/
structure Climbed (g : Grouping) (joints : List Joint) (g' : Grouping) (js : List Joint) :
    Prop where
  grouped : g'.WellGrouped
  suffix : js <:+ joints
  first : g'.first = g.first
  rest : g'.rest ++ js.map Joint.pair = g.rest ++ joints.map Joint.pair

theorem Climbed.refl {g : Grouping} (h : g.WellGrouped) (joints : List Joint) :
    Climbed g joints g joints := ⟨h, List.suffix_refl _, rfl, rfl⟩

theorem Climbed.trans {g g' g'' : Grouping} {joints js js' : List Joint}
    (h : Climbed g joints g' js) (h' : Climbed g' js g'' js') : Climbed g joints g'' js' :=
  ⟨h'.grouped, h'.suffix.trans h.suffix, h'.first.trans h.first, h'.rest.trans h.rest⟩

/-- Whether the operator at the root of the tree, if it has one, has the
property. -/
def AtRoot (g : Grouping) (P : Nat → Prop) : Prop := ∀ o ∈ g.root?, P (Symbol.precedence o)

/-- Whether the first of the joints, if there is one, has the property. -/
def AtHead (joints : List Joint) (P : Nat → Prop) : Prop := ∀ j ∈ joints.head?, P j.precedence

/-- What `climb` does to joints: it comes to a tree, of the given minimum at
least if anything is taken, and leaves joints of less than that. -/
def Climbs (more : List Token) (joints : List Joint) : Prop :=
  ∀ (g : Grouping) (minimum : Nat), g.WellGrouped → 2 ≤ minimum →
    AtHead joints (fun p => minimum ≤ p → AtRoot g (p ≤ ·)) →
    ∃ g' js, Run Expr.builder (.climb g.toExpr minimum) (Joint.tokens joints ++ more)
        (.node g'.toExpr) (Joint.tokens js ++ more) ∧
      Climbed g joints g' js ∧ AtHead js (· < minimum) ∧ (g' = g ∨ AtRoot g' (minimum ≤ ·))

/-- What `tails` does to joints behind an operator: it comes to a tree that
binds tighter than the operator, and leaves joints that do not. -/
def ClimbsTails (more : List Token) (joints : List Joint) : Prop :=
  ∀ (g : Grouping) (j : Joint), g.WellGrouped → AtRoot g (j.precedence < ·) →
    AtHead joints (fun p => j.precedence < p → AtRoot g (p ≤ ·)) →
    ∃ g' js, Run Expr.builder (.tails (operatorToken j.operator) g.toExpr)
        (Joint.tokens joints ++ more) (.node g'.toExpr) (Joint.tokens js ++ more) ∧
      Climbed g joints g' js ∧ AtHead js (· ≤ j.precedence) ∧ AtRoot g' (j.precedence < ·)

/-- The step of `climb`: it takes one operator with its right operand, which is
what `tails` makes of the joints behind it, and goes on. -/
theorem climbs_of_shorter {joints : List Joint} (hm : ∀ t ∈ more.head?, EndsChain t)
    (ihc : ∀ js : List Joint, js.length < joints.length → Climbs more js)
    (iht : ∀ js : List Joint, js.length < joints.length → ClimbsTails more js) :
    Climbs more joints := by
  intro g minimum hg hmin hhead
  cases joints with
  | nil =>
    refine ⟨g, [], .stop fun t ht => (hm t ht).not_extends hmin, .refl hg _, ?_, Or.inl rfl⟩
    rintro j ⟨⟩
  | cons j joints =>
    by_cases hbinds : minimum ≤ j.precedence
    · -- The right operand binds tighter than the operator.
      have hroot := hhead j rfl hbinds
      obtain ⟨r, js, htails, hright, hjs, htight⟩ :=
        iht joints (Nat.lt_succ_self _) (.operand j.operand.tree) j trivial
          (fun o ho => by cases ho) (fun _ _ _ o ho => by cases ho)
      obtain ⟨inner, us, hunary, htails⟩ := run_tails_of_operand j.operand.run j.operand.shaped
        j.operand.ranked (neutral_of_joints joints hm) j.precedence_bounds.2 htails
      -- The new tree is well grouped, and what follows binds no tighter than its root.
      have hnew : (Grouping.group g j.operator r).WellGrouped :=
        ⟨hg, hright.grouped, hroot, htight⟩
      have hshort : js.length < (j :: joints).length :=
        Nat.lt_succ_of_le hright.suffix.length_le
      obtain ⟨g', js', hclimb, hrest, hjs', hroot'⟩ := ihc js hshort (.group g j.operator r) minimum
        hnew hmin (by
          rintro j' hj' - o ⟨⟩
          exact hjs j' hj')
      have hmoved : Climbed g (j :: joints) (.group g j.operator r) js := by
        refine ⟨hnew, hright.suffix.trans (List.suffix_cons _ _), rfl, ?_⟩
        have hr := hright.rest
        simp only [Grouping.rest, List.nil_append] at hr
        rw [Grouping.rest, List.append_assoc, List.cons_append, hr, hright.first]
        rfl
      refine ⟨g', js', ?_, hmoved.trans hrest, hjs', Or.inr ?_⟩
      · rw [Joint.tokens, List.cons_append, List.append_assoc]
        exact .binary rfl j.operator_ne hbinds (List.contains_iff_mem.mpr j.known) hunary htails
          hclimb
      · obtain rfl | hroot' := hroot'
        · rintro o ⟨⟩
          exact hbinds
        · exact hroot'
    · refine ⟨g, j :: joints, .stop ?_, .refl hg _, ?_, Or.inl rfl⟩
      · rintro t ⟨⟩
        simp only [Extends, Token.isSymbol, operatorToken]
        simpa [Joint.precedence] using hbinds
      · rintro j' ⟨⟩
        exact Nat.lt_of_not_le hbinds

/-- The step of `tails`: it climbs to the precedence of the next operator, which
takes that operator at least, and goes on. -/
theorem climbsTails_of_climbs {joints : List Joint} (hm : ∀ t ∈ more.head?, EndsChain t)
    (hc : Climbs more joints)
    (iht : ∀ js : List Joint, js.length < joints.length → ClimbsTails more js) :
    ClimbsTails more joints := by
  intro g j hg hroot hhead
  cases joints with
  | nil =>
    refine ⟨g, [], .looser fun t ht => (hm t ht).not_tighter j, .refl hg _, ?_, hroot⟩
    rintro j' ⟨⟩
  | cons next joints =>
    by_cases htighter : j.precedence < next.precedence
    · have hnext := hhead next rfl htighter
      obtain ⟨g', js, hclimb, hmoved, hjs, hroot'⟩ := hc g next.precedence hg
        next.precedence_bounds.1 (by
          rintro j' ⟨⟩ -
          exact hnext)
      -- The next operator does not stay, as it binds as tight as the minimum.
      have hsuffix : js <:+ joints := by
        obtain rfl | hsuffix := List.suffix_cons_iff.mp hmoved.suffix
        · exact absurd (hjs next rfl) (Nat.lt_irrefl _)
        · exact hsuffix
      have hg' : AtRoot g' (next.precedence ≤ ·) := by
        obtain rfl | hroot' := hroot'
        · exact hnext
        · exact hroot'
      have hshort : js.length < (next :: joints).length := Nat.lt_succ_of_le hsuffix.length_le
      obtain ⟨g'', js', htails, hrest, hjs', hroot''⟩ := iht js hshort g' j hmoved.grouped
        (fun o ho => Nat.lt_of_lt_of_le htighter (hg' o ho))
        (fun j' hj' _ o ho => Nat.le_trans (Nat.le_of_lt (hjs j' hj')) (hg' o ho))
      refine ⟨g'', js', ?_, hmoved.trans hrest, hjs', hroot''⟩
      rw [Joint.tokens, List.cons_append, List.append_assoc] at hclimb ⊢
      refine .tighter ⟨rfl, htighter⟩ hclimb ?_ htails
      have hlen := length_tokens_le hsuffix
      simp only [List.length_append]
      omega
    · refine ⟨g, next :: joints, .looser ?_, .refl hg _, ?_, hroot⟩
      · rintro t ⟨⟩ ⟨-, hlt⟩
        exact htighter hlt
      · rintro j' ⟨⟩
        exact Nat.le_of_not_lt htighter

/-- Both functions run through joints of any number, by induction on it. -/
theorem climbs_and_tails (hm : ∀ t ∈ more.head?, EndsChain t) (joints : List Joint) :
    Climbs more joints ∧ ClimbsTails more joints := by
  induction hn : joints.length using Nat.strongRecOn generalizing joints with
  | ind n ih =>
    subst hn
    have hc := climbs_of_shorter hm (fun js h => (ih js.length h js rfl).1)
      (fun js h => (ih js.length h js rfl).2)
    exact ⟨hc, climbsTails_of_climbs hm hc fun js h => (ih js.length h js rfl).2⟩

/-- A chain is taken to the end of it, and comes to its well grouped tree. -/
theorem run_chain (c : Chain) (hm : ∀ t ∈ more.head?, EndsChain t) :
    ∃ g, c.Groups g ∧ ∀ {e vs}, Run Expr.builder (.climb g.toExpr 0) more (.node e) vs →
      Run Expr.builder .expression (c.tokens ++ more) (.node e) vs := by
  obtain ⟨g, js, hclimb, hmoved, hjs, -⟩ := (climbs_and_tails hm c.joints).1
    (.operand c.first.tree) 2 trivial (Nat.le_refl 2) (fun _ _ _ o ho => by cases ho)
  obtain rfl : js = [] := by
    cases js with
    | nil => rfl
    | cons j js =>
      have hlow := hjs j rfl
      have hhigh := j.precedence_bounds.1
      omega
  have hrest := hmoved.rest
  simp only [Grouping.rest, List.map_nil, List.append_nil, List.nil_append] at hrest
  refine ⟨g, ⟨hmoved.first, hrest, hmoved.grouped⟩, ?_⟩
  intro e vs tail
  rw [Chain.tokens, List.append_assoc]
  exact run_expression_of_operand c.first.run c.first.shaped c.first.ranked
    (neutral_of_joints c.joints hm) (hclimb.climb_trans tail (Nat.zero_le _))

/-- A phrase comes to what it means. -/
theorem run_phrase (p : Phrase) :
    ∃ e, p.Means e ∧ Run Expr.builder .expression p.tokens (.node e) [] := by
  induction p with
  | chain c =>
    obtain ⟨g, hgroups, hrun⟩ := @run_chain [] c (fun t ht => by cases ht)
    refine ⟨g.toExpr, .chain hgroups, ?_⟩
    have := hrun (.stop fun t ht => by cases ht)
    rw [List.append_nil] at this
    exact this
  | choice condition beforeMark afterMark whenTrue beforeColon afterColon whenFalse ih =>
    obtain ⟨e, hmeans, hfalse⟩ := ih
    have hcolon : ∀ t ∈ (colonToken :: whenFalse.tokens).head?, EndsChain t := by
      rintro t ⟨⟩
      exact Or.inl rfl
    have hmark : ∀ t ∈ (operatorToken "?" ::
        (whenTrue.tokens ++ colonToken :: whenFalse.tokens)).head?, EndsChain t := by
      rintro t ⟨⟩
      exact Or.inr ⟨rfl, by decide⟩
    obtain ⟨g, hgroups, hrun⟩ := run_chain condition hmark
    obtain ⟨g', hgroups', hrun'⟩ := run_chain whenTrue hcolon
    have htrue := @hrun' g'.toExpr (colonToken :: whenFalse.tokens) (.stop (by
      rintro t ⟨⟩
      simp [Extends, Token.isSymbol, colonToken]))
    refine ⟨_, .choice hgroups hgroups' hmeans, hrun ?_⟩
    exact .ternary rfl rfl (Nat.zero_le _) htrue rfl hfalse (.stop fun t ht => by cases ht)

end Parser

/-! ## The text -/

section Text

variable {cs ds : List Char} {ts us : List Token}

/-- Written texts are put together by blanks. -/
theorem Written.append_gap (gap : Gap) (h : Written cs ts) (h' : Written ds us) :
    Written (cs ++ (gap.text.toList ++ ds)) (ts ++ us) := by
  have hblanks : Written (gap.text.toList ++ ds) us := h'.blanks gap.blank
  obtain ⟨b, bs, hgap⟩ := List.exists_cons_of_ne_nil gap.nonempty
  have hb : Text.isBlank b = true := by
    apply gap.blank
    rw [hgap]
    exact List.mem_cons_self
  rw [hgap, List.cons_append] at hblanks ⊢
  exact h.append (separates_of_isBlank hb) hblanks

/-- An operator on its own is written. -/
theorem written_operator_alone {operator : String} (h : operator ∈ operators) :
    Written operator.toList [operatorToken operator] := by
  have hw : Written (operator.toList ++ []) [operatorToken operator] :=
    written_operator h (fun c hc => by cases hc) .nil
  rw [List.append_nil] at hw
  exact hw

/-- A name on its own is written. -/
theorem written_word_alone {word : String} (h : IsIdentifier word.toList) :
    Written word.toList [wordToken word] := by
  have hw : Written (word.toList ++ []) [wordToken word] :=
    written_word h (fun c hc => by cases hc) .nil
  rw [List.append_nil] at hw
  exact hw

theorem Joint.known_operator (j : Joint) : j.operator ∈ operators :=
  List.mem_cons_of_mem _ (List.mem_cons_of_mem _ j.known)

/-- The text of an operand and joints scans to their tokens, by induction on the
joints: the operand before them changes from one to the next. -/
theorem Joint.written (x : Operand) (joints : List Joint) :
    Written (x.text.toList ++ (texts joints).toList) (x.tokens ++ tokens joints) := by
  induction joints generalizing x with
  | nil =>
    simp only [texts, tokens, String.toList_empty, List.append_nil]
    exact x.written
  | cons j joints ih =>
    have hright := (written_operator_alone j.known_operator).append_gap j.after (ih j.operand)
    have hwhole := x.written.append_gap j.before hright
    simp only [texts, tokens, String.toList_append]
    exact hwhole

theorem Chain.written (c : Chain) : Written c.text.toList c.tokens := by
  rw [Chain.text, String.toList_append]
  exact Joint.written c.first c.joints

/-- The text of a phrase scans to its tokens. -/
theorem Phrase.written (p : Phrase) : Written p.text.toList p.tokens := by
  induction p with
  | chain c => exact c.written
  | choice condition beforeMark afterMark whenTrue beforeColon afterColon whenFalse ih =>
    have hcolon : Written ":".toList [colonToken] := written_colon .nil
    have hmark : Written "?".toList [operatorToken "?"] :=
      written_operator_alone List.mem_cons_self
    -- From the right: the last part, and before it each part and its separator.
    have hfalse := hcolon.append_gap afterColon ih
    have htrue := whenTrue.written.append_gap beforeColon hfalse
    have hchoice := hmark.append_gap afterMark htrue
    have hwhole := condition.written.append_gap beforeMark hchoice
    simp only [Phrase.text, String.toList_append]
    exact hwhole

end Text

/-- A phrase parses, to a tree that it means, and it means no other tree. -/
theorem Phrase.parse_eq (p : Phrase) :
    ∃ e, Expr.parse p.text = .ok e ∧ p.Means e ∧ ∀ e', p.Means e' → e' = e := by
  obtain ⟨e, hmeans, hrun⟩ := Parser.run_phrase p
  refine ⟨e, ?_, hmeans, fun e' h => h.unique hmeans⟩
  apply parse_eq_ok_iff.mpr
  rw [p.written.stream_eq]
  exact ⟨rfl, hrun⟩

/-! ## A phrase of names -/

/-- A name is an operand. -/
def Operand.name (name : String) (h : Expr.IsName name) : Operand where
  text := name
  tokens := [wordToken name]
  tree := .id name
  written := written_word_alone h.1
  shaped := by
    simp only [Parser.isOperand, wordToken]
    split <;> rfl
  parses := by
    apply parse_eq_ok_iff.mpr
    rw [(written_word_alone h.1).stream_eq]
    have hprimary := @Parser.run_name [] name h fun u hu => by cases hu
    exact ⟨rfl, Parser.run_expression_of_primary (Parser.wordToken_kind_ne name) hprimary
      Parser.ends_nil⟩

def Gap.space : Gap := ⟨" ", by decide, forall_mem_of_all (by decide)⟩

/-- An operator and an operand with a space before each. -/
def Joint.spaced (operator : String) (known : operator ∈ Symbol.binaryOperators)
    (operand : Operand) : Joint := ⟨.space, operator, known, .space, operand⟩

/-- The phrase `a - b * c - d ? e : f`. -/
def Phrase.sample : Phrase :=
  .choice
    ⟨.name "a" (by decide),
      [.spaced "-" (by decide) (.name "b" (by decide)),
        .spaced "*" (by decide) (.name "c" (by decide)),
        .spaced "-" (by decide) (.name "d" (by decide))]⟩
    .space .space ⟨.name "e" (by decide), []⟩ .space .space (.chain ⟨.name "f" (by decide), []⟩)

theorem Phrase.parse_sample : Expr.parse "a - b * c - d ? e : f" = .ok (.ternary
    (.binary "-" (.binary "-" (.id "a") (.binary "*" (.id "b") (.id "c"))) (.id "d"))
    (.id "e") (.id "f")) := by
  have htext : sample.text = "a - b * c - d ? e : f" := by decide
  obtain ⟨e, hparse, -, hunique⟩ := sample.parse_eq
  -- The grouping of the condition; the other two parts are operands.
  let g : Grouping := .group (.group (.operand (.id "a")) "-"
    (.group (.operand (.id "b")) "*" (.operand (.id "c")))) "-" (.operand (.id "d"))
  have hg : g.WellGrouped := by
    simp [g, Grouping.WellGrouped, Grouping.root?]
    decide
  have hfalse : (Phrase.chain ⟨.name "f" (by decide), []⟩).Means (.id "f") :=
    @Means.chain _ (.operand (.id "f")) ⟨rfl, rfl, trivial⟩
  have hmeans : sample.Means (.ternary g.toExpr (.id "e") (.id "f")) :=
    @Means.choice _ _ _ _ _ _ _ g (.operand (.id "e")) _ ⟨rfl, rfl, hg⟩ ⟨rfl, rfl, trivial⟩ hfalse
  rw [htext, ← hunique _ hmeans] at hparse
  exact hparse

end BindingLang
