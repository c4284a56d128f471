import BindingLang.Proofs.Eval.Dependencies
import BindingLang.Proofs.Parser.Simulation
import BindingLang.Proofs.Parser.WellFormed
/-!
  Rules: which operators a parsed tree can fail for.

  An operator stands for something in evaluation, or it has no rule. The error
  that says so comes from a node with that operator and from nowhere else, if it
  is none of the host's: no operation on values makes it up. Of the operators
  that the grammar puts into trees all but two have a rule.

  What is proved:
    1. `eval_fails` — evaluation fails for nothing but what the operators of the
       nodes fail for, and what operations on values do.
    2. `fails_of_parse` — a parsed tree is well formed, and fails for the rule of
       an operator only if that is `&` or `^` between two of its operands.
-/

namespace BindingLang

variable {σ α β : Type}

/-- Whether a result is a value, or an error with the property. -/
def FailsWith (P : EvalError → Prop) (result : Except EvalError α) : Prop :=
  ∀ e, result = .error e → P e

namespace FailsWith

variable {P : EvalError → Prop}

theorem ok' {a : α} : FailsWith P (.ok a) := nofun

theorem error' {e : EvalError} (h : P e) : FailsWith P (.error e : Except EvalError α) := by
  rintro _ ⟨⟩
  exact h

theorem ite' {condition : Prop} [Decidable condition] {r r' : Except EvalError α}
    (hthen : FailsWith P r) (helse : FailsWith P r') :
    FailsWith P (if condition then r else r') := by
  split
  · exact hthen
  · exact helse

theorem bind' {result : Except EvalError α} {f : α → Except EvalError β}
    (h : FailsWith P result) (hf : ∀ a, FailsWith P (f a)) : FailsWith P (result.bind f) := by
  cases result with
  | ok a => exact hf a
  | error e => exact error' (h e rfl)

theorem map' {result : Except EvalError α} {f : α → β} (h : FailsWith P result) :
    FailsWith P (result.map f) :=
  bind' h fun _ => ok'

end FailsWith

/-- Whether an evaluation fails only with errors that have the property, whatever
the state of the host. -/
def EvalM.Fails (P : EvalError → Prop) (m : EvalM σ α) : Prop :=
  ∀ state, FailsWith P (m.result state)

namespace EvalM.Fails

variable {P Q : EvalError → Prop}

theorem pure' (a : α) : Fails P (pure a : EvalM σ α) := fun _ => .ok'

theorem throw' {e : EvalError} (h : P e) : Fails P (throw e : EvalM σ α) := fun _ => .error' h

theorem ofExcept' {result : Except EvalError α} (h : FailsWith P result) :
    Fails P (ofExcept result : EvalM σ α) := fun _ => h

theorem mono {m : EvalM σ α} (h : Fails P m) (hPQ : ∀ e, P e → Q e) : Fails Q m :=
  fun state e he => hPQ e (h state e he)

theorem bind' {m : EvalM σ α} {f : α → EvalM σ β} (hm : Fails P m) (hf : ∀ a, Fails P (f a)) :
    Fails P (m >>= f) := by
  intro state
  have h := hm state
  rw [result_bind]
  unfold result at h
  cases hrun : m.run.run state with
  | mk result next =>
    rw [hrun] at h
    cases result with
    | ok a => exact hf a next
    | error e => exact .error' (h e rfl)

end EvalM.Fails

/-- Whether the error is another than the lack of a rule for an operator. -/
def EvalError.Ruled : EvalError → Prop
  | .unknownOperator _ => False
  | _ => True

namespace Value

variable {left right value key operand receiver : Value}

theorem member_ruled {name : String} : FailsWith EvalError.Ruled (value.member name) := by
  cases value with
  | undefined | null => exact .error' trivial
  | _ => exact .ok'

theorem index_ruled : FailsWith EvalError.Ruled (value.index key) := by
  unfold index
  split
  · exact .ok'
  · exact .ok'
  · exact member_ruled

theorem numbers_ruled {operation : Arithmetic} {a b : Number} :
    FailsWith EvalError.Ruled (operation.numbers a b) := by
  cases a with
  | integer a =>
    cases b with
    | integer b =>
      refine .ite' (.error' trivial) ?_
      split <;> exact .ok'
    | float b => exact .ok'
  | float a => cases b <;> exact .ok'

theorem combine_ruled {operation : Arithmetic} :
    FailsWith EvalError.Ruled (combine operation left right) := by
  unfold combine
  split
  · exact numbers_ruled
  · exact .error' trivial

theorem add_ruled : FailsWith EvalError.Ruled (left.add right) :=
  .ite' .ok' combine_ruled

theorem compare_ruled {comparison : Comparison} :
    FailsWith EvalError.Ruled (compare comparison left right) := by
  unfold compare
  split
  · exact .ok'
  · exact .ok'
  · exact .ite' .ok' (.error' trivial)

theorem negate_ruled : FailsWith EvalError.Ruled operand.negate := by
  cases operand with
  | integer n =>
    simp only [negate]
    split <;> exact .ok'
  | array | object | function | scope => exact .error' trivial
  | _ => exact .ok'

theorem stringArgument_ruled {method : String} {arguments : List Value} {position : Nat} :
    FailsWith EvalError.Ruled (stringArgument method arguments position) := by
  unfold stringArgument
  split
  · exact .ok'
  · exact .error' trivial
  · exact .error' trivial

theorem matchesPattern_ruled {s pattern : String} :
    FailsWith EvalError.Ruled (matchesPattern s pattern) := by
  unfold matchesPattern
  split
  · exact .ok'
  · exact .error' trivial

/-- Whether a method, if there is one, fails for no rule. -/
def RuledMethod (outcome : Option (Except EvalError Value)) : Prop :=
  ∀ result, outcome = some result → FailsWith EvalError.Ruled result

namespace RuledMethod

theorem none' : RuledMethod none := nofun

theorem some' {result : Except EvalError Value} (h : FailsWith EvalError.Ruled result) :
    RuledMethod (some result) := by
  rintro _ ⟨⟩
  exact h

theorem ite' {condition : Prop} [Decidable condition] {a b : Option (Except EvalError Value)}
    (ha : RuledMethod a) (hb : RuledMethod b) : RuledMethod (if condition then a else b) := by
  split
  · exact ha
  · exact hb

theorem callText' (s method : String) (arguments : List Value) :
    RuledMethod (callText? s method arguments) := by
  unfold callText?
  iterate 5 refine ite' (some' .ok') ?_
  iterate 5 refine ite' (some' (.map' stringArgument_ruled)) ?_
  exact ite' (some' (.bind' stringArgument_ruled fun _ => matchesPattern_ruled)) none'

theorem callArray' (items : List Value) (method : String) (arguments : List Value) :
    RuledMethod (callArray? items method arguments) := by
  unfold callArray?
  iterate 4 refine ite' (some' .ok') ?_
  exact none'

theorem builtin' (receiver : Value) (method : String) (arguments : List Value) :
    RuledMethod (receiver.builtin? method arguments) := by
  cases receiver with
  | string s => exact callText' s method arguments
  | array items => exact callArray' items method arguments
  | boolean | integer | float => exact ite' (some' .ok') none'
  | _ => exact none'

end RuledMethod

theorem callBuiltin_ruled {method : String} {arguments : List Value} :
    FailsWith EvalError.Ruled (receiver.callBuiltin method arguments) := by
  unfold callBuiltin
  cases hb : receiver.builtin? method arguments with
  | none => exact .error' trivial
  | some result => exact RuledMethod.builtin' receiver method arguments result hb

end Value

/-! ## Evaluation -/

open EvalM

variable {host : Host σ}

/-- A host whose functions fail for no rule of an operator. -/
def Host.Ruled (host : Host σ) : Prop :=
  ∀ f this arguments, (host.call f this arguments).Fails EvalError.Ruled

namespace Host

theorem callValue_ruled (hp : host.Ruled) (callee this : Value) (arguments : List Value)
    (label : String) : (host.callValue callee this arguments label).Fails EvalError.Ruled := by
  cases callee with
  | function f => exact hp f this arguments
  | _ => exact Fails.throw' trivial

theorem callBuiltin_ruled (receiver : Value) (method : String) (arguments : List Value) :
    (host.callBuiltin receiver method arguments).Fails EvalError.Ruled :=
  fun _ => Value.callBuiltin_ruled

theorem applyOperator_ruled (hp : host.Ruled) (operator : BinaryOperator) (left right : Value) :
    (host.applyOperator operator left right).Fails EvalError.Ruled := by
  cases operator with
  | arithmetic operation =>
    cases operation with
    | add => exact Fails.ofExcept' Value.add_ruled
    | _ => exact Fails.ofExcept' Value.combine_ruled
  | compare comparison => exact Fails.ofExcept' Value.compare_ruled
  | filter => exact callValue_ruled hp _ _ _ _
  | _ => exact Fails.pure' _

end Host

namespace Expr

/-- Whether the errors are among those with the property that the operator of the
node fails for, if it has no rule. -/
def FailsWithin (P : EvalError → Prop) : Expr → Prop
  | .unary operator _ => UnaryOperator.ofSymbol? operator = none → P (.unknownOperator operator)
  | .binary operator _ _ =>
    BinaryOperator.ofSymbol? operator = none → P (.unknownOperator operator)
  | _ => True

variable {scope : Scope}

theorem evalItems_fails {P : EvalError → Prop} {items : List Expr}
    (h : ∀ item ∈ items, (item.eval host scope).Fails P) :
    (evalItems host scope items).Fails P := by
  induction items with
  | nil => exact Fails.pure' _
  | cons item items ih =>
    obtain ⟨hitem, hitems⟩ := List.forall_mem_cons.mp h
    simp only [evalItems]
    exact Fails.bind' hitem fun _ => Fails.bind' (ih hitems) fun _ => Fails.pure' _

theorem evalEntries_fails {P : EvalError → Prop} {entries : List (String × Expr)}
    (h : ∀ entry ∈ entries, (entry.2.eval host scope).Fails P) :
    (evalEntries host scope entries).Fails P := by
  induction entries with
  | nil => exact Fails.pure' _
  | cons entry entries ih =>
    obtain ⟨hentry, hentries⟩ := List.forall_mem_cons.mp h
    simp only [evalEntries]
    exact Fails.bind' hentry fun _ => Fails.bind' (ih hentries) fun _ => Fails.pure' _

/-- An evaluation fails for nothing but what its nodes' operators fail for, and
what operations on values do. -/
theorem eval_fails {P : EvalError → Prop} (hP : ∀ error, error.Ruled → P error)
    (hp : host.Ruled) (e : Expr) (h : e.Every (FailsWithin P)) : (e.eval host scope).Fails P := by
  have ruled {m : EvalM σ Value} (hm : m.Fails EvalError.Ruled) : m.Fails P := hm.mono hP
  induction e using Expr.induct with
  | empty | literal | id => simp only [eval]; exact Fails.pure' _
  | unary operator child ih =>
    obtain ⟨hnode, hchild⟩ := every_unary.mp h
    simp only [eval]
    refine Fails.bind' (ih hchild) fun operand => Fails.ofExcept' ?_
    unfold Value.applyUnary
    split
    · exact .ok'
    · exact fun error he => hP error (Value.negate_ruled error he)
    · exact .ok'
    · rename_i hnone
      exact .error' (hnode hnone)
  | binary operator left right ihl ihr =>
    obtain ⟨hnode, hleft, hright⟩ := every_binary.mp h
    simp only [eval]
    refine Fails.bind' (ihl hleft) fun l => Fails.bind' (ihr hright) fun r => ?_
    unfold Host.applyBinary
    split
    · exact ruled (Host.applyOperator_ruled hp _ l r)
    · rename_i hnone
      exact Fails.throw' (hnode hnone)
  | getter receiver name ih =>
    obtain ⟨-, hreceiver⟩ := every_getter.mp h
    simp only [eval]
    exact Fails.bind' (ih hreceiver) fun value => ruled (Fails.ofExcept' Value.member_ruled)
  | index receiver argument ihr iha =>
    obtain ⟨-, hreceiver, hargument⟩ := every_index.mp h
    simp only [eval]
    exact Fails.bind' (ihr hreceiver) fun value => Fails.bind' (iha hargument) fun key =>
      ruled (Fails.ofExcept' Value.index_ruled)
  | ternary condition whenTrue whenFalse ihc iht ihf =>
    obtain ⟨-, hcondition, htrue, hfalse⟩ := every_ternary.mp h
    simp only [eval]
    refine Fails.bind' (ihc hcondition) fun value => ?_
    split
    · exact iht htrue
    · exact ihf hfalse
  | map entries ih =>
    obtain ⟨-, hentries⟩ := every_map.mp h
    have hall := evalEntries_fails fun entry he => ih entry he (hentries entry he)
    simp only [eval]
    exact Fails.bind' hall fun values => Fails.pure' _
  | list items ih =>
    obtain ⟨-, hitems⟩ := every_list.mp h
    have hall := evalItems_fails fun item hi => ih item hi (hitems item hi)
    simp only [eval]
    exact Fails.bind' hall fun values => Fails.pure' _
  | invoke receiver method arguments ihr iha =>
    obtain ⟨-, hreceiver, harguments⟩ := every_invoke.mp h
    have hall := evalItems_fails fun item hi => iha item hi (harguments item hi)
    cases method with
    | none =>
      simp only [eval]
      exact Fails.bind' (ihr hreceiver) fun callee => Fails.bind' hall fun values =>
        ruled (Host.callValue_ruled hp _ _ _ _)
    | some method =>
      simp only [eval]
      refine Fails.bind' (ihr hreceiver) fun receiver => ?_
      refine Fails.bind' (ruled (Fails.ofExcept' Value.member_ruled)) fun member => ?_
      refine Fails.bind' hall fun values => ?_
      split
      · exact ruled (Host.callBuiltin_ruled _ _ _)
      · exact ruled (Host.callValue_ruled hp _ _ _ _)

/-- Every operator that may stand before an operand has a rule. -/
theorem unary_has_rule {operator : String} (h : operator ∈ Symbol.unaryOperators) :
    UnaryOperator.ofSymbol? operator ≠ none := by
  have hall : ∀ operator ∈ Symbol.unaryOperators, UnaryOperator.ofSymbol? operator ≠ none := by
    decide
  exact hall operator h

/-- Of the operators that may stand between operands two have none. -/
theorem binary_without_rule {operator : String} (h : operator ∈ Symbol.binaryOperators)
    (hnone : BinaryOperator.ofSymbol? operator = none) : operator = "&" ∨ operator = "^" := by
  have hall : ∀ operator ∈ Symbol.binaryOperators, BinaryOperator.ofSymbol? operator = none →
      operator = "&" ∨ operator = "^" := by decide
  exact hall operator h hnone

/-- The tree of a source, plain or as a formula, is well formed all over; and in a
host that raises no such error itself it fails for the rule of an operator only if
that is one of the two without a rule, and stands in the tree. -/
theorem fails_of_parse {source : String} {e : Expr}
    (h : parse source = .ok e ∨ Formula.parse source = .ok ⟨e⟩) :
    e.Every WellFormed ∧
      ∀ (σ : Type) (host : Host σ), host.Ruled → ∀ (scope : Scope) (state : σ) (operator : String),
        (e.eval host scope).result state = .error (.unknownOperator operator) →
          (operator = "&" ∨ operator = "^") ∧
            ∃ left right, .binary operator left right ∈ e.nodes := by
  have hparse : parse source = .ok e := by
    obtain h | h := h
    · exact h
    · have hmap : Formula.parse source = (parse source).map .mk :=
        parse_map Formula.hom_builder source
      rw [h] at hmap
      cases hplain : parse source with
      | error error => rw [hplain] at hmap; cases hmap
      | ok e' => rw [hplain] at hmap; cases hmap; rfl
  have hformed := wellFormed_of_parse hparse
  refine ⟨hformed, fun σ host hp scope state operator hresult => ?_⟩
  have hnodes : e.Every (FailsWithin fun error => ∀ operator, error = .unknownOperator operator →
      (operator = "&" ∨ operator = "^") ∧ ∃ left right, .binary operator left right ∈ e.nodes) := by
    intro node hnode
    have hwell := hformed node hnode
    cases node with
    | unary operator child => exact fun hnone => absurd hnone (unary_has_rule hwell)
    | binary operator left right =>
      rintro hnone _ ⟨⟩
      exact ⟨binary_without_rule hwell hnone, left, right, hnode⟩
    | _ => trivial
  refine eval_fails ?_ hp e hnodes state _ hresult operator rfl
  rintro _ hruled operator rfl
  exact hruled.elim

/-- In `1 + (a & b)` the second operator has no rule. -/
theorem fails_of_parse_ampersand :
    parse "1 + (a & b)" =
        .ok (.binary "+" (.literal (.integer 1)) (.binary "&" (.id "a") (.id "b"))) ∧
      echoHost.Ruled ∧
      ((Expr.binary "+" (.literal (.integer 1)) (.binary "&" (.id "a") (.id "b"))).eval echoHost
        oneLink).result () = .error (.unknownOperator "&") ∧
      ∃ left right, Expr.binary "&" left right ∈
        (Expr.binary "+" (.literal (.integer 1)) (.binary "&" (.id "a") (.id "b"))).nodes := by
  have hparse : parse "1 + (a & b)" =
      .ok (.binary "+" (.literal (.integer 1)) (.binary "&" (.id "a") (.id "b"))) := by cbv
  have hruled : echoHost.Ruled := fun _ _ _ => Fails.pure' _
  have hresult : ((Expr.binary "+" (.literal (.integer 1)) (.binary "&" (.id "a") (.id "b"))).eval
      echoHost oneLink).result () = .error (.unknownOperator "&") := rfl
  obtain ⟨-, hfails⟩ := fails_of_parse (.inl hparse)
  exact ⟨hparse, hruled, hresult, (hfails Unit echoHost hruled oneLink () "&" hresult).2⟩

end Expr

end BindingLang
