import BindingLang.Eval.Basic
import BindingLang.Proofs.Expr.Tree
/-!
  Properties of computations that evaluation cannot leave.

  An evaluation is put together from calls of the host and from results that do
  not concern it, one after the other. So whatever holds of the calls, holds of
  such results, and is kept in going on from one computation to the next, holds
  of every evaluation.

  What is proved:
    1. `Expr.eval_closed` — every closed property that a host is within.
    2. `Expr.eval_keeps` — what the host's functions keep of its state, every
       evaluation keeps.
-/

namespace BindingLang

variable {σ α β : Type}

namespace EvalM

theorem run_bind (m : EvalM σ α) (f : α → EvalM σ β) (state : σ) :
    (m >>= f).run.run state =
      match m.run.run state with
      | (.ok a, next) => (f a).run.run next
      | (.error e, next) => (.error e, next) := by
  simp only [ExceptT.run_bind, StateT.run_bind]
  rcases m.run.run state with ⟨_ | _, _⟩ <;> rfl

/-- Whether a property holds of the results that do not concern the host, and is
kept in going on from one computation to the next. -/
structure Closed (P : {α : Type} → EvalM σ α → Prop) : Prop where
  ofExcept {α : Type} (result : Except EvalError α) : P (EvalM.ofExcept result : EvalM σ α)
  bind {α β : Type} {m : EvalM σ α} {f : α → EvalM σ β} (first : P m) (rest : ∀ a, P (f a)) :
    P (m >>= f)

namespace Closed

variable {P : {α : Type} → EvalM σ α → Prop} (hP : Closed P)
include hP

theorem pure' (a : α) : P (pure a : EvalM σ α) := hP.ofExcept (.ok a)

theorem throw' (e : EvalError) : P (throw e : EvalM σ α) := hP.ofExcept (.error e)

end Closed

end EvalM

open EvalM

/-- Whether all that a host does has the property: its functions, and taking note
of built-in methods. -/
structure Host.Within (host : Host σ) (P : {α : Type} → EvalM σ α → Prop) : Prop where
  call : ∀ f this arguments, P (host.call f this arguments)
  note : ∀ receiver method arguments,
    P (modify (host.noteBuiltin receiver method arguments) : EvalM σ Unit)

section Closed

variable {P : {α : Type} → EvalM σ α → Prop} (hP : Closed P) {host : Host σ}
include hP

namespace Expr

variable {scope : Scope}

theorem evalItems_closed {items : List Expr} (h : ∀ item ∈ items, P (item.eval host scope)) :
    P (evalItems host scope items) := by
  induction items with
  | nil => exact hP.pure' _
  | cons item items ih =>
    simp only [evalItems]
    refine hP.bind (h item List.mem_cons_self) fun value => ?_
    exact hP.bind (ih fun other ho => h other (List.mem_cons_of_mem _ ho)) fun values => hP.pure' _

theorem evalEntries_closed {entries : List (String × Expr)}
    (h : ∀ entry ∈ entries, P (entry.2.eval host scope)) :
    P (evalEntries host scope entries) := by
  induction entries with
  | nil => exact hP.pure' _
  | cons entry entries ih =>
    simp only [evalEntries]
    refine hP.bind (h entry List.mem_cons_self) fun value => ?_
    exact hP.bind (ih fun other ho => h other (List.mem_cons_of_mem _ ho)) fun values => hP.pure' _

end Expr

variable (hhost : host.Within P)
include hhost

namespace Host

theorem callValue_closed (callee this : Value) (arguments : List Value) (label : String) :
    P (host.callValue callee this arguments label) := by
  cases callee with
  | function f => exact hhost.call f this arguments
  | _ => exact hP.throw' _

theorem callBuiltin_closed (receiver : Value) (method : String) (arguments : List Value) :
    P (host.callBuiltin receiver method arguments) :=
  hP.bind (hhost.note receiver method arguments) fun _ => hP.ofExcept _

theorem applyBinary_closed (symbol : String) (left right : Value) :
    P (host.applyBinary symbol left right) := by
  unfold applyBinary
  split
  · rename_i operator _
    cases operator with
    | arithmetic operation => cases operation <;> exact hP.ofExcept _
    | compare comparison => exact hP.ofExcept _
    | filter => exact callValue_closed hP hhost _ _ _ _
    | _ => exact hP.pure' _
  · exact hP.throw' _

end Host

namespace Expr

/-- A closed property of all that a host does is one of every evaluation in it. -/
theorem eval_closed (scope : Scope) (e : Expr) : P (e.eval host scope) := by
  induction e using Expr.induct with
  | empty | literal | id => simp only [eval]; exact hP.pure' _
  | unary operator child ih =>
    simp only [eval]
    exact hP.bind ih fun operand => hP.ofExcept _
  | binary operator left right ihl ihr =>
    simp only [eval]
    exact hP.bind ihl fun l => hP.bind ihr fun r => Host.applyBinary_closed hP hhost _ _ _
  | getter receiver name ih =>
    simp only [eval]
    exact hP.bind ih fun value => hP.ofExcept _
  | index receiver argument ihr iha =>
    simp only [eval]
    exact hP.bind ihr fun value => hP.bind iha fun key => hP.ofExcept _
  | ternary condition whenTrue whenFalse ihc iht ihf =>
    simp only [eval]
    refine hP.bind ihc fun value => ?_
    split
    · exact iht
    · exact ihf
  | map entries ih =>
    simp only [eval]
    exact hP.bind (evalEntries_closed hP ih) fun values => hP.pure' _
  | list items ih =>
    simp only [eval]
    exact hP.bind (evalItems_closed hP ih) fun values => hP.pure' _
  | invoke receiver method arguments ihr iha =>
    have harguments := evalItems_closed hP iha
    cases method with
    | none =>
      simp only [eval]
      refine hP.bind ihr fun callee => hP.bind harguments fun values => ?_
      exact Host.callValue_closed hP hhost _ _ _ _
    | some method =>
      simp only [eval]
      refine hP.bind ihr fun receiver => hP.bind (hP.ofExcept _) fun member => ?_
      refine hP.bind harguments fun values => ?_
      split
      · exact Host.callBuiltin_closed hP hhost _ _ _
      · exact Host.callValue_closed hP hhost _ _ _ _

end Expr

end Closed

/-! ## What is kept of the state -/

/-- Whether a computation leads from states with a property to such states only. -/
def EvalM.Keeps (Q : σ → Prop) (m : EvalM σ α) : Prop := ∀ state, Q state → Q (m.run.run state).2

theorem EvalM.closed_keeps (Q : σ → Prop) : Closed fun m : EvalM σ _ => m.Keeps Q where
  ofExcept _ _ hstate := hstate
  bind {_ _ m f} first rest state hstate := by
    have hnext := first state hstate
    rw [run_bind]
    rcases hrun : m.run.run state with ⟨_ | a, next⟩ <;> rw [hrun] at hnext
    · exact hnext
    · exact rest a next hnext

/-- What a host's functions keep of its state, every evaluation keeps. -/
theorem Expr.eval_keeps {Q : σ → Prop} {host : Host σ}
    (hhost : host.Within fun m => m.Keeps Q) (scope : Scope) (e : Expr) :
    (e.eval host scope).Keeps Q :=
  eval_closed (closed_keeps Q) hhost scope e

end BindingLang
