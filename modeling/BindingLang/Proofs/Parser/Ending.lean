import BindingLang.Proofs.Expr.Entries
import BindingLang.Proofs.Expr.Tree
import BindingLang.Proofs.Parser.Adequacy
import BindingLang.Proofs.Token.Valid
import Mathlib
/-!
  Endings: where a tree can lack a part.

  An expression that starts where the stream has ended is the empty node. Most
  of the places of an expression are closed by a token, and a stream that has
  ended has none left, so the empty node gets into a tree by one way only: the
  last branch of a choice, which nothing closes. Nothing follows it then, so the
  choice is the right edge of the tree.

  What is proved:
    1. `ending` — a run comes to a tree without empty nodes, or it takes all
       tokens, the last of them a colon, and lacks just the branch behind it.
    2. `parse_complete_or_lacks` — so does the parse of a source that has tokens.
-/

namespace BindingLang

namespace Expr

/-- Whether the tree lacks no part: none of its nodes is empty. -/
def Complete (e : Expr) : Prop := ∀ node ∈ e.nodes, node ≠ .empty

/-- Whether the tree is a choice that lacks its last branch, or has such a choice
for it, and lacks nothing else. -/
inductive LacksLast : Expr → Prop where
  | here {condition whenTrue : Expr} (first : condition.Complete) (second : whenTrue.Complete) :
      LacksLast (.ternary condition whenTrue .empty)
  | inside {condition whenTrue whenFalse : Expr} (first : condition.Complete)
      (second : whenTrue.Complete) (last : LacksLast whenFalse) :
      LacksLast (.ternary condition whenTrue whenFalse)

section Complete

variable {e left right receiver argument condition whenTrue whenFalse : Expr}
  {items : List Expr} {entries : List (String × Expr)} {name operator : String}

theorem complete_iff_every : e.Complete ↔ e.Every (· ≠ .empty) := Iff.rfl

theorem complete_literal (value : Literal) : (literal value).Complete := by
  simp [complete_iff_every]

theorem complete_id (name : String) : (id name).Complete := by
  simp [complete_iff_every]

@[simp] theorem complete_unary : (unary operator e).Complete ↔ e.Complete := by
  simp [complete_iff_every]

@[simp] theorem complete_binary :
    (binary operator left right).Complete ↔ left.Complete ∧ right.Complete := by
  simp [complete_iff_every]

@[simp] theorem complete_getter : (getter receiver name).Complete ↔ receiver.Complete := by
  simp [complete_iff_every]

@[simp] theorem complete_invoke {method : Option String} :
    (invoke receiver method items).Complete ↔
      receiver.Complete ∧ ∀ item ∈ items, item.Complete := by
  simp [complete_iff_every]

@[simp] theorem complete_index :
    (index receiver argument).Complete ↔ receiver.Complete ∧ argument.Complete := by
  simp [complete_iff_every]

@[simp] theorem complete_ternary : (ternary condition whenTrue whenFalse).Complete ↔
    condition.Complete ∧ whenTrue.Complete ∧ whenFalse.Complete := by
  simp [complete_iff_every]

@[simp] theorem complete_map : (map entries).Complete ↔ ∀ entry ∈ entries, entry.2.Complete := by
  simp [complete_iff_every]

@[simp] theorem complete_list : (list items).Complete ↔ ∀ item ∈ items, item.Complete := by
  simp [complete_iff_every]

theorem not_complete_empty : ¬ empty.Complete := fun h => h .empty (mem_nodes_self _) rfl

theorem LacksLast.not_complete (h : e.LacksLast) : ¬ e.Complete := by
  induction h with
  | here first second => simp [not_complete_empty]
  | inside first second last ih => simp [ih]

end Complete

end Expr

/-- Whether the arguments of a call after a dot lack no part. -/
def Member.Complete : Member Expr → Prop
  | .name _ => True
  | .call _ arguments => ∀ argument ∈ arguments, argument.Complete

/-- Whether the last of the tokens is a colon. -/
def EndsInColon (ts : List Token) : Prop := ∃ t ∈ ts.getLast?, t.kind = .colon

/-- Whether the scanner can return all of the tokens. -/
def AllValid (ts : List Token) : Prop := ∀ t ∈ ts, t.Valid

section Tokens

variable {t : Token} {ts us : List Token} {kind : Token.Kind}

theorem AllValid.tail (h : AllValid (t :: ts)) : AllValid ts :=
  fun u hu => h u (List.mem_cons_of_mem _ hu)

theorem AllValid.of_suffix (h : AllValid ts) (hs : us <:+ ts) : AllValid us :=
  fun u hu => h u (hs.subset hu)

theorem not_endsInColon_nil : ¬ EndsInColon [] := by
  simp [EndsInColon]

/-- The last token is that of every rear part, if it is not empty. -/
theorem endsInColon_of_suffix (hs : us <:+ ts) (hne : us ≠ []) :
    EndsInColon ts ↔ EndsInColon us := by
  obtain ⟨front, rfl⟩ := hs
  rw [EndsInColon, List.getLast?_append, List.getLast?_eq_some_getLast hne, Option.some_or,
    EndsInColon, List.getLast?_eq_some_getLast hne]

theorem not_endsInColon_cons (hk : t.kind = kind) (hne : kind ≠ .colon) (h : ¬ EndsInColon ts) :
    ¬ EndsInColon (t :: ts) := by
  cases ts with
  | nil => simpa [EndsInColon, hk] using hne
  | cons u us => rwa [endsInColon_of_suffix (List.suffix_cons t _) (List.cons_ne_nil _ _)]

/-- A token that is no colon, with the end of the stream behind it, is the last. -/
theorem not_endsInColon_of_last (hs : (t :: us) <:+ ts) (hk : t.kind = kind)
    (hne : kind ≠ .colon) : us = [] → ¬ EndsInColon ts := by
  rintro rfl
  rw [endsInColon_of_suffix hs (List.cons_ne_nil _ _)]
  exact not_endsInColon_cons hk hne not_endsInColon_nil

/-- Where nothing is left, the last token is one of the last part of the run that
took any. -/
theorem not_endsInColon_trans {vs : List Token} (hs : us <:+ ts)
    (hl : vs = [] → ¬ EndsInColon us) (hf : us = [] → ¬ EndsInColon ts) :
    vs = [] → ¬ EndsInColon ts := by
  intro hv
  by_cases hu : us = []
  · exact hf hu
  · rw [endsInColon_of_suffix hs hu]
    exact hl hv

end Tokens

namespace Parser

open BindingLang.Expr

/-- Whether what the goal starts with lacks no part, and its operator, where it
has one, binds tighter than the choice. -/
def Goal.Starts : Goal Expr → Prop
  | .climb left _ => left.Complete
  | .tails operator right => right.Complete ∧ Symbol.precedence "?" < operator.precedence
  | _ => True

/-- Whether the goal may take a choice to the end of the tokens. -/
def Goal.MayLack : Goal Expr → Prop
  | .expression => True
  | .climb _ minimum => minimum ≤ Symbol.precedence "?"
  | _ => False

/-- Whether the result of a run lacks no part. -/
def Yield.Complete : Yield Expr → Prop
  | .node e => e.Complete
  | .items es => ∀ e ∈ es, e.Complete
  | .entries es => ∀ entry ∈ es, entry.2.Complete

/-- How a run ends: with a result that lacks nothing, and not at a final colon;
or at one, with the branch lacking that should be behind it. -/
inductive Ending (goal : Goal Expr) (ts : List Token) : Yield Expr → List Token → Prop where
  | complete {result : Yield Expr} {us : List Token} (complete : result.Complete)
      (last : us = [] → ¬ EndsInColon ts) : Ending goal ts result us
  | lacking {e : Expr} (may : goal.MayLack) (last : EndsInColon ts) (lacks : e.LacksLast) :
      Ending goal ts (.node e) []

section Ending

variable {goal goal' : Goal Expr} {result : Yield Expr} {t : Token} {ts us vs : List Token}

/-- Where a choice cannot go on to the end, nothing is lacking. -/
theorem Ending.of_not_mayLack (h : Ending goal ts result us) (hno : ¬ goal.MayLack) :
    result.Complete ∧ (us = [] → ¬ EndsInColon ts) := by
  cases h with
  | complete complete last => exact ⟨complete, last⟩
  | lacking may => exact absurd may hno

/-- Nothing is lacking where a token is left. -/
theorem Ending.of_rest (h : Ending goal ts result (t :: us)) : result.Complete := by
  cases h with
  | complete complete last => exact complete

/-- The ending of a run is that of its last part. -/
theorem Ending.prepend (h : Ending goal us result vs) (hs : us <:+ ts)
    (hl : us = [] → ¬ EndsInColon ts) (hm : goal.MayLack → goal'.MayLack) :
    Ending goal' ts result vs := by
  cases h with
  | complete complete last => exact .complete complete (not_endsInColon_trans hs last hl)
  | lacking may last lacks =>
    have hu : us ≠ [] := by
      rintro rfl
      exact not_endsInColon_nil last
    exact .lacking (hm may) ((endsInColon_of_suffix hs hu).mpr last) lacks

theorem complete_of_member {node : Expr} {m : Member Expr} (h : Expr.member node = .ok m)
    (hc : node.Complete) : m.Complete := by
  unfold Expr.member at h
  split at h
  · cases h
    trivial
  · cases h
    exact (complete_invoke.mp hc).2
  · cases h

/-- Nothing is taken where no token is left. -/
theorem eq_of_climb_nil {left node : Expr} {minimum : Nat}
    (h : Run builder (.climb left minimum) [] (.node node) us) : node = left ∧ us = [] := by
  cases h with
  | stop => exact ⟨rfl, rfl⟩

theorem RunWith.ne_nil_of_rest (h : Run builder goal ts result (t :: us)) : ts ≠ [] :=
  List.ne_nil_of_length_pos (Nat.lt_of_lt_of_le (Nat.succ_pos _) h.length_le)

/-- An expression that starts where no token is left is the empty node. -/
theorem eq_empty_of_expression_nil {node : Expr}
    (h : Run builder .expression [] (.node node) us) : node = .empty ∧ us = [] := by
  cases h with
  | empty => exact ⟨rfl, rfl⟩
  | whole first tail => exact absurd first.lt_of_unary (Nat.not_lt_zero _)

/-- Every operator between operands binds tighter than the choice. -/
theorem choice_lt_binary (hv : t.Valid) (hk : t.kind = .operator)
    (known : Symbol.isBinary t.value = true) : Symbol.precedence "?" < t.precedence := by
  have hall : ∀ operator ∈ Symbol.binaryOperators,
      Symbol.precedence "?" < Symbol.precedence operator := by decide
  have hp := hv.precedence
  rw [hk] at hp
  rw [hp]
  exact hall _ (List.contains_iff_mem.mp known)

end Ending

variable {goal : Goal Expr} {result : Yield Expr} {ts us : List Token}

/-- A run lacks nothing, but for the branch behind a colon that is the last
token. -/
theorem ending (h : Run builder goal ts result us) (hv : AllValid ts) (hg : goal.Starts)
    (hne : goal = .expression → ts ≠ []) : Ending goal ts result us := by
  -- Along a run nothing is lacking as long as tokens are left. Where the tokens
  -- end with a choice, its tail takes nothing, and so do the goals around it.
  induction h with
  | empty => exact absurd rfl (hne rfl)
  | stop =>
    refine .complete hg ?_
    rintro rfl
    exact not_endsInColon_nil
  | looser =>
    refine .complete hg.1 ?_
    rintro rfl
    exact not_endsInColon_nil
  | whole first tail ihf iht =>
    obtain ⟨hfirst, lfirst⟩ := (ihf hv trivial nofun).of_not_mayLack id
    have htail := iht (hv.of_suffix first.suffix) hfirst nofun
    exact htail.prepend first.suffix lfirst fun _ => trivial
  | @call left callee node minimum opener ts us vs nodes opens list builds tail ihl iht =>
    cases builds
    obtain ⟨hlist, llist⟩ := (ihl hv.tail trivial nofun).of_not_mayLack id
    have hs : us <:+ opener :: ts := list.suffix.trans (List.suffix_cons _ _)
    have htail := iht (hv.of_suffix hs) (complete_invoke.mpr ⟨hg, hlist⟩) nofun
    refine htail.prepend hs (fun hu => ?_) id
    exact not_endsInColon_cons (kind_of_isSymbol opens) (by decide) (llist hu)
  | @index left argument node minimum opener closer ts us vs opens key closes tail ihk iht =>
    have hkey := (ihk hv.tail trivial fun _ => key.ne_nil_of_rest).of_rest
    have hs : closer :: us <:+ opener :: ts := key.suffix.trans (List.suffix_cons _ _)
    have hs' : us <:+ opener :: ts := (List.suffix_cons _ _).trans hs
    have htail := iht (hv.of_suffix hs') (complete_index.mpr ⟨hg, hkey⟩) nofun
    exact htail.prepend hs' (not_endsInColon_of_last hs (kind_of_isSymbol closes) (by decide)) id
  | @getter left right node minimum dot ts us vs name kind operand splits tail iho iht =>
    obtain ⟨-, loperand⟩ := (iho hv.tail trivial nofun).of_not_mayLack id
    have hs : us <:+ dot :: ts := operand.suffix.trans (List.suffix_cons _ _)
    have htail := iht (hv.of_suffix hs) (complete_getter.mpr hg) nofun
    exact htail.prepend hs (fun hu => not_endsInColon_cons kind (by decide) (loperand hu)) id
  | @method left right callee node minimum dot ts us vs name nodes kind operand splits builds tail
      iho iht =>
    cases builds
    obtain ⟨hoperand, loperand⟩ := (iho hv.tail trivial nofun).of_not_mayLack id
    have hnodes : ∀ argument ∈ nodes, argument.Complete := complete_of_member splits hoperand
    have hs : us <:+ dot :: ts := operand.suffix.trans (List.suffix_cons _ _)
    have htail := iht (hv.of_suffix hs) (complete_invoke.mpr ⟨hg, hnodes⟩) nofun
    exact htail.prepend hs (fun hu => not_endsInColon_cons kind (by decide) (loperand hu)) id
  | @ternary left whenTrue whenFalse node minimum mark colon ts us vs ws kind value binds first
      colons second tail ihf ihs iht =>
    have hfirst := (ihf hv.tail trivial fun _ => first.ne_nil_of_rest).of_rest
    have hmay : minimum ≤ Symbol.precedence "?" := by
      have hmark := (hv mark List.mem_cons_self).precedence
      rw [kind, value] at hmark
      exact binds.trans_eq hmark
    have hs : colon :: us <:+ mark :: ts := first.suffix.trans (List.suffix_cons _ _)
    have hs' : us <:+ mark :: ts := (List.suffix_cons _ _).trans hs
    by_cases hu : us = []
    · -- The colon is the last token, and the branch behind it is the empty node.
      subst hu
      obtain ⟨rfl, rfl⟩ := eq_empty_of_expression_nil second
      obtain ⟨rfl, rfl⟩ := eq_of_climb_nil tail
      refine .lacking hmay ?_ (.here hg hfirst)
      rw [endsInColon_of_suffix hs (List.cons_ne_nil _ _)]
      exact ⟨colon, rfl, colons⟩
    · cases ihs (hv.of_suffix hs') trivial (fun _ => hu) with
      | complete hsecond lsecond =>
        have hs'' := second.suffix.trans hs'
        have htail := iht (hv.of_suffix hs'') (complete_ternary.mpr ⟨hg, hfirst, hsecond⟩) nofun
        refine htail.prepend hs'' (fun hvs => ?_) id
        rw [endsInColon_of_suffix hs' hu]
        exact lsecond hvs
      | lacking _ last lacks =>
        -- The branch itself ends with a choice that lacks its last branch.
        obtain ⟨rfl, rfl⟩ := eq_of_climb_nil tail
        refine .lacking hmay ?_ (.inside hg hfirst lacks)
        rw [endsInColon_of_suffix hs' hu]
        exact last
  | @binary left operand right node minimum operator ts us vs ws kind value binds known first second
      tail ihf ihs iht =>
    obtain ⟨hfirst, lfirst⟩ := (ihf hv.tail trivial nofun).of_not_mayLack id
    have hlt := choice_lt_binary (hv operator List.mem_cons_self) kind known
    have hs : us <:+ operator :: ts := first.suffix.trans (List.suffix_cons _ _)
    have hs' : vs <:+ operator :: ts := second.suffix.trans hs
    have hsecond := ihs (hv.of_suffix hs) ⟨hfirst, hlt⟩ nofun
    obtain ⟨hright, lright⟩ := hsecond.of_not_mayLack id
    have htail := iht (hv.of_suffix hs') (complete_binary.mpr ⟨hg, hright⟩) nofun
    refine htail.prepend hs' (not_endsInColon_trans hs lright fun hu => ?_) id
    exact not_endsInColon_cons kind (by decide) (lfirst hu)
  | @stuck operator next right node ts tighter step ih =>
    have hlt := hg.2.trans tighter.2
    obtain ⟨hstep, -⟩ := (ih hv hg.1 nofun).of_not_mayLack (not_le_of_gt hlt)
    exact .complete hstep fun hu => absurd hu (List.cons_ne_nil _ _)
  | @tighter operator next right extended node ts us vs tighter step moves tail ihs iht =>
    have hlt := hg.2.trans tighter.2
    obtain ⟨hstep, lstep⟩ := (ihs hv hg.1 nofun).of_not_mayLack (not_le_of_gt hlt)
    have htail := iht (hv.of_suffix step.suffix) ⟨hstep, hg.2⟩ nofun
    exact htail.prepend step.suffix lstep id
  | atom kind primary ih =>
    obtain ⟨hprimary, lprimary⟩ := (ih hv trivial nofun).of_not_mayLack id
    exact .complete hprimary lprimary
  | @signed sign number ts value kind sign' number' reads =>
    have hs := List.suffix_cons sign (number :: ts)
    refine .complete (complete_literal value) ?_
    rcases number' with hk | hk
    · exact not_endsInColon_of_last hs hk (by decide)
    · exact not_endsInColon_of_last hs hk (by decide)
  | @prefixed operator ts us vs operand node kind unsigned known primary tail ihp iht =>
    obtain ⟨hprimary, lprimary⟩ := (ihp hv.tail trivial nofun).of_not_mayLack id
    have hs : us <:+ operator :: ts := primary.suffix.trans (List.suffix_cons _ _)
    have htight : ¬ Symbol.tightest ≤ Symbol.precedence "?" := by decide
    obtain ⟨hnode, lnode⟩ := (iht (hv.of_suffix hs) hprimary nofun).of_not_mayLack htight
    refine .complete (complete_unary.mpr hnode) (not_endsInColon_trans hs lnode fun hu => ?_)
    exact not_endsInColon_cons kind (by decide) (lprimary hu)
  | @this t ts kind value =>
    exact .complete (complete_id t.value)
      (not_endsInColon_of_last (List.suffix_refl _) kind (by decide))
  | @constant t ts value reads =>
    refine .complete (complete_literal value) ?_
    cases reads with
    | word kind | string kind | integer kind | decimal kind =>
      exact not_endsInColon_of_last (List.suffix_refl _) kind (by decide)
  | @name t ts kind noWord ends =>
    exact .complete (complete_id t.value)
      (not_endsInColon_of_last (List.suffix_refl _) kind (by decide))
  | @nameCall t opener ts us nodes node kind noWord opens list builds ih =>
    cases builds
    obtain ⟨hlist, llist⟩ := (ih hv.tail.tail trivial nofun).of_not_mayLack id
    refine .complete (complete_invoke.mpr ⟨complete_id t.value, hlist⟩) fun hu => ?_
    exact not_endsInColon_cons kind (by decide)
      (not_endsInColon_cons (kind_of_isSymbol opens) (by decide) (llist hu))
  | @paren opener closer ts us inner opens run closes ih =>
    have hinner := (ih hv.tail trivial fun _ => run.ne_nil_of_rest).of_rest
    have hs : closer :: us <:+ opener :: ts := run.suffix.trans (List.suffix_cons _ _)
    exact .complete hinner (not_endsInColon_of_last hs (kind_of_isSymbol closes) (by decide))
  | @map opener ts us entries opens list ih =>
    obtain ⟨hlist, llist⟩ := (ih hv.tail trivial nofun).of_not_mayLack id
    refine .complete (complete_map.mpr ?_) fun hu => ?_
    · exact fun entry he => hlist entry ((mergeEntries_subperm entries).subset he)
    · exact not_endsInColon_cons (kind_of_isSymbol opens) (by decide) (llist hu)
  | @list opener ts us items opens list ih =>
    obtain ⟨hlist, llist⟩ := (ih hv.tail trivial nofun).of_not_mayLack id
    refine .complete (complete_list.mpr hlist) fun hu => ?_
    exact not_endsInColon_cons (kind_of_isSymbol opens) (by decide) (llist hu)
  | itemsNone closes | entriesNone closes =>
    exact .complete (by simp [Yield.Complete])
      (not_endsInColon_of_last (List.suffix_refl _) (kind_of_isSymbol closes) (by decide))
  | @itemsLast closer t ts us item opens run closes ih =>
    have hitem := (ih hv trivial fun _ => run.ne_nil_of_rest).of_rest
    exact .complete (List.forall_mem_singleton.mpr hitem)
      (not_endsInColon_of_last run.suffix (kind_of_isSymbol closes) (by decide))
  | @itemsMore closer comma ts us vs item items opens run commas more ihr ihm =>
    have hitem := (ihr hv trivial fun _ => run.ne_nil_of_rest).of_rest
    have hs : us <:+ ts := (List.suffix_cons _ _).trans run.suffix
    obtain ⟨hitems, litems⟩ := (ihm (hv.of_suffix hs) trivial nofun).of_not_mayLack id
    exact .complete (List.forall_mem_cons.mpr ⟨hitem, hitems⟩)
      (not_endsInColon_trans hs litems
        (not_endsInColon_of_last run.suffix commas (by decide)))
  | @entriesLast key colon t ts us value kind colons run closes ih =>
    have hvalue := (ih hv.tail.tail trivial fun _ => run.ne_nil_of_rest).of_rest
    have hs : t :: us <:+ key :: colon :: ts :=
      run.suffix.trans ((List.suffix_cons _ _).trans (List.suffix_cons _ _))
    exact .complete (List.forall_mem_singleton.mpr hvalue)
      (not_endsInColon_of_last hs (kind_of_isSymbol closes) (by decide))
  | @entriesMore key colon comma ts us vs value entries kind colons run commas more ihr ihm =>
    have hvalue := (ihr hv.tail.tail trivial fun _ => run.ne_nil_of_rest).of_rest
    have hs : comma :: us <:+ key :: colon :: ts :=
      run.suffix.trans ((List.suffix_cons _ _).trans (List.suffix_cons _ _))
    have hs' : us <:+ key :: colon :: ts := (List.suffix_cons _ _).trans hs
    obtain ⟨hentries, lentries⟩ := (ihm (hv.of_suffix hs') trivial nofun).of_not_mayLack id
    exact .complete (List.forall_mem_cons.mpr ⟨hvalue, hentries⟩)
      (not_endsInColon_trans hs' lentries (not_endsInColon_of_last hs commas (by decide)))

end Parser

namespace Expr

/-- A source without tokens parses to the empty node alone. The tree of any other
has no empty node, unless the source ends in the colon of a choice: there the
branch that should follow is an empty node at the right edge of the tree. -/
theorem parse_complete_or_lacks {source : String} {e : Expr} (h : parse source = .ok e) :
    ((Token.Stream.ofText source).tokens = [] ∧ e = .empty) ∨
      ((Token.Stream.ofText source).tokens ≠ [] ∧
        (¬ EndsInColon (Token.Stream.ofText source).tokens ∧ e.Complete ∨
          EndsInColon (Token.Stream.ofText source).tokens ∧ e.LacksLast)) := by
  obtain ⟨-, run⟩ := parse_eq_ok_iff.mp h
  have hv : AllValid (Token.Stream.ofText source).tokens := fun t ht => valid_of_mem_stream ht
  by_cases hts : (Token.Stream.ofText source).tokens = []
  · rw [hts] at run
    exact Or.inl ⟨hts, (Parser.eq_empty_of_expression_nil run).1⟩
  · refine Or.inr ⟨hts, ?_⟩
    cases Parser.ending run hv trivial (fun _ => hts) with
    | complete complete last => exact Or.inl ⟨last rfl, complete⟩
    | lacking _ last lacks => exact Or.inr ⟨last, lacks⟩

/-- The source `a ? b :` parses, and its tree has an empty node. -/
theorem parse_open_choice_lacks :
    parse "a ? b :" = .ok (.ternary (.id "a") (.id "b") .empty) ∧
      (Token.Stream.ofText "a ? b :").tokens ≠ [] ∧
      LacksLast (.ternary (.id "a") (.id "b") .empty) ∧
      ¬ Complete (.ternary (.id "a") (.id "b") .empty) := by
  have hparse : parse "a ? b :" = .ok (.ternary (.id "a") (.id "b") .empty) := by cbv
  have hnot : ¬ Complete (.ternary (.id "a") (.id "b") .empty) := by simp [not_complete_empty]
  obtain ⟨-, h⟩ | ⟨hts, ⟨-, hcomplete⟩ | ⟨-, hlacks⟩⟩ := parse_complete_or_lacks hparse
  · cases h
  · exact absurd hcomplete hnot
  · exact ⟨hparse, hts, hlacks, hnot⟩

end Expr

end BindingLang
