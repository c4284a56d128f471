import BindingLang.Proofs.Eval.Dependencies
import BindingLang.Proofs.Scope.Session
import BindingLang.Proofs.Scope.Sharing
/-!
  Evaluation in a session: no turn changes what is shared.

  A session is sound if its workspace is and knows all values that are held. A
  session leads to another one if that is sound and its workspace has grown.
  Moves lead on by the operations of the workspace. An evaluation leads on as
  soon as the functions do that it calls: all it has are the scope it takes place
  in and what comes out of calls, and taking a known value apart leaves it
  known. Functions lead on as soon as their turns do, and these are fewer levels
  deep, so turns lead on by induction on the depth.

  What is proved:
    1. `Session.Sound.perform` — every move leads on.
    2. `Expr.eval_safe` — so does the evaluation of an expression in a settled
       scope, and it comes to a known value.
    3. `Script.take_leads`, `Script.run_leads` — so does every turn, and every
       run.
-/

namespace BindingLang

variable {τ α β : Type}

/-! ## Taking known values apart -/

namespace Workspace

variable {w : Workspace}

theorem knows_undefined : w.Knows .undefined := Value.plain_undefined.mentionsOnly _

/-- What is undefined where it is missing is known if it is where it is not. -/
theorem knows_getD {found : Option Value} (h : ∀ value, found = some value → w.Knows value) :
    w.Knows (found.getD .undefined) := by
  cases found with
  | none => exact knows_undefined
  | some value => exact h value rfl

variable (h : w.Sound)
include h

theorem Sound.fits_of_settled {link : Link Value} {outer : Scope}
    (hs : w.Settled (link :: outer)) : ∃ slot, w.Fits slot link outer := by
  obtain ⟨slot, -, hs⟩ := hs
  exact ⟨slot, h.fits (scope?_of_shared? hs)⟩

theorem Sound.knows_lookup {scope : Scope} (hs : scope = [] ∨ w.Settled scope) (name : String) :
    w.Knows (scope.lookup name) := by
  induction scope with
  | nil => exact knows_undefined
  | cons link outer ih =>
    have hsettled := hs.resolve_left (by simp)
    obtain ⟨slot, hfits⟩ := h.fits_of_settled hsettled
    rw [Scope.lookup]
    split
    · rename_i value hb
      exact hfits.bindings _ (Dict.mem_of_get? hb)
    · split
      · exact .scope' hsettled
      · exact ih hfits.parent

theorem Sound.knows_member {value result : Value} {name : String} (hv : w.Knows value)
    (hm : value.member name = .ok result) : w.Knows result := by
  cases value with
  | object entries =>
    cases hm
    exact knows_getD fun value hb => hv.entry (Dict.mem_of_get? hb)
  | scope links =>
    cases hm
    exact h.knows_lookup (Or.inr (hv links (.scope links))) name
  | array items =>
    simp only [Value.member, Except.ok.injEq] at hm
    subst hm
    split <;> exact nofun
  | string s =>
    simp only [Value.member, Except.ok.injEq] at hm
    subst hm
    split <;> exact nofun
  | undefined => cases hm
  | null => cases hm
  | _ => cases hm; exact knows_undefined

theorem Sound.knows_index {value key result : Value} (hv : w.Knows value)
    (hi : value.index key = .ok result) : w.Knows result := by
  unfold Value.index at hi
  split at hi
  · rename_i items position _
    cases hi
    exact knows_getD fun item hb => hv.item (List.mem_of_getElem? hb)
  · cases hi
    unfold Value.charAt
    split <;> exact nofun
  · exact h.knows_member hv hi

theorem Sound.settled_parent {scope outer : Scope} (hs : w.Settled scope)
    (hp : scope.parent? = some outer) : w.Settled outer := by
  cases scope with
  | nil => cases hp
  | cons link rest =>
    obtain ⟨slot, hfits⟩ := h.fits_of_settled hs
    cases rest with
    | nil => cases hp
    | cons next rest =>
      cases hp
      exact hfits.parent.resolve_left (by simp)

end Workspace

/-! ## Sound sessions, and where they lead -/

namespace Session

open Workspace

/-- Whether the workspace is sound and knows what is held. -/
structure Sound (s : Session τ) : Prop where
  workspace : s.workspace.Sound
  held : ∀ value ∈ s.held, s.workspace.Knows value

/-- Whether the one session is sound, and the other one's workspace has grown in
it. -/
def Leads (s s' : Session τ) : Prop := s'.Sound ∧ s.workspace.Grows s'.workspace

variable {s s' s'' : Session τ}

theorem Leads.trans (h : s.Leads s') (h' : s'.Leads s'') : s.Leads s'' :=
  ⟨h'.1, h.2.trans h'.2⟩

theorem Sound.stay (h : s.Sound) : s.Leads s := ⟨h, .refl _⟩

theorem sound_start (memory : τ) : (start memory).Sound := ⟨nofun, nofun⟩

theorem Sound.remember (h : s.Sound) (memory : τ) : s.Leads { s with memory } :=
  ⟨⟨h.workspace, h.held⟩, .refl _⟩

/-- A session leads on to a sound workspace that its own one has grown into: what
it holds stays known. -/
theorem Sound.become (h : s.Sound) {w : Workspace} (hw : w.Sound)
    (hg : s.workspace.Grows w) : s.Leads { s with workspace := w } :=
  ⟨⟨hw, fun value hv => (h.held value hv).grow hg⟩, hg⟩

/-- The same of a step that may have nothing to lead to. -/
theorem Sound.tryBecome (h : s.Sound) {next : Option Workspace}
    (hnext : ∀ w, next = some w → w.Sound ∧ s.workspace.Grows w) :
    s.Leads { s with workspace := next.getD s.workspace } := by
  cases next with
  | none => exact h.stay
  | some w => exact h.become (hnext w rfl).1 (hnext w rfl).2

theorem Sound.hold (h : s.Sound) {values : List Value}
    (hv : ∀ value ∈ values, s.workspace.Knows value) : s.Leads (s.hold values) := by
  refine ⟨⟨h.workspace, fun value hm => ?_⟩, .refl _⟩
  obtain hm | hm := List.mem_append.mp hm
  · exact h.held value hm
  · exact hv value hm

mutual

/-- What a client can write is known. -/
theorem Sound.knows_valueOf (h : s.Sound) : (draft : Draft) → s.workspace.Knows (s.valueOf draft)
  | .undefined => knows_undefined
  | .literal constant => (Value.plain_ofLiteral constant).mentionsOnly _
  | .function f => nofun
  | .array items => .array' (h.knows_values items)
  | .object entries =>
    .object' fun entry he => h.knows_valuesOfEntries entries entry (Dict.mem_ofList he)
  | .scope slot => knows_getD fun value hv => by
    obtain ⟨scope, hs, rfl⟩ := Option.map_eq_some_iff.mp hv
    exact .scope' (h.workspace.settled_of_shared? hs)
  | .held place => knows_getD fun value hv => h.held value (List.mem_of_getElem? hv)
  | .part of key => knows_getD fun value hv => by
    have hof := h.knows_valueOf of
    cases hr : (of.value s.workspace s.held).index (key.value s.workspace s.held) with
    | error e => rw [hr] at hv; cases hv
    | ok result => rw [hr] at hv; cases hv; exact h.workspace.knows_index hof hr
  | .parent of => by
    have hof := h.knows_valueOf of
    unfold valueOf at hof ⊢
    unfold Draft.value
    split
    · rename_i links hr
      rw [hr] at hof
      refine knows_getD fun value hv => ?_
      obtain ⟨outer, hp, rfl⟩ := Option.map_eq_some_iff.mp hv
      exact .scope' (h.workspace.settled_parent (hof links (.scope links)) hp)
    · exact knows_undefined

theorem Sound.knows_values (h : s.Sound) : (items : List Draft) →
    ∀ value ∈ Draft.values s.workspace s.held items, s.workspace.Knows value
  | item :: items, _, hv => by
    obtain rfl | hv := List.mem_cons.mp hv
    · exact h.knows_valueOf item
    · exact h.knows_values items _ hv

theorem Sound.knows_valuesOfEntries (h : s.Sound) : (entries : List (String × Draft)) →
    ∀ entry ∈ Draft.valuesOfEntries s.workspace s.held entries, s.workspace.Knows entry.2
  | (_, draft) :: entries, _, he => by
    obtain rfl | he := List.mem_cons.mp he
    · exact h.knows_valueOf draft
    · exact h.knows_valuesOfEntries entries _ he

end

/-- Every move leads on. -/
theorem Sound.perform (h : s.Sound) (move : Move) : s.Leads (s.perform move) := by
  cases move with
  | root bindings =>
    refine h.become (h.workspace.addRoot fun entry he => ?_) (Workspace.grows_add _ _)
    exact h.knows_valuesOfEntries bindings entry (Dict.mem_ofList he)
  | document document => exact h.tryBecome fun w hd => h.workspace.addDocument? hd
  | child parent => exact h.tryBecome fun w hc => h.workspace.addChild? hc
  | share slot => exact h.become (h.workspace.share slot) (Workspace.grows_share _ slot)
  | insert slot name value =>
    simp only [Session.perform]
    split
    · rename_i w previous hi
      obtain ⟨hw, hprevious⟩ := h.workspace.insert (h.knows_valueOf value) hi
      have hnew := h.become hw (Workspace.grows_insert hi)
      exact hnew.trans (hnew.1.hold fun old hold => hprevious old (Option.mem_toList.mp hold))
    · exact h.stay
  | formula formula =>
    exact h.become (h.workspace.addFormula formula) (Workspace.grows_addFormula _ formula)

end Session

/-! ## Computations -/

namespace EvalM

/-- Whether the computation leads on from every sound session in which the
workspace has grown, and what it comes to, if anything, is as `post` says in
view of the workspace then. -/
def Safe (w : Workspace) (m : EvalM (Session τ) α) (post : Workspace → α → Prop) : Prop :=
  ∀ s : Session τ, s.Sound → w.Grows s.workspace →
    s.Leads (m.run.run s).2 ∧
      ∀ a, (m.run.run s).1 = .ok a → post (m.run.run s).2.workspace a

namespace Safe

variable {w : Workspace} {post : Workspace → α → Prop} {post' : Workspace → β → Prop}

theorem ofExcept' {r : Except EvalError α}
    (h : ∀ w', w'.Sound → w.Grows w' → ∀ a, r = .ok a → post w' a) :
    Safe w (ofExcept r : EvalM (Session τ) α) post :=
  fun s hs hg => ⟨hs.stay, h s.workspace hs.workspace hg⟩

theorem pure' {a : α} (h : ∀ w', w'.Sound → w.Grows w' → post w' a) :
    Safe w (pure a : EvalM (Session τ) α) post :=
  ofExcept' fun w' hw hg _ ha => Except.ok.inj ha ▸ h w' hw hg

theorem throw' (e : EvalError) : Safe w (throw e : EvalM (Session τ) α) post :=
  fun _ hs _ => ⟨hs.stay, nofun⟩

theorem bind' {m : EvalM (Session τ) α} {f : α → EvalM (Session τ) β} (hm : Safe w m post)
    (hf : ∀ a w', w.Grows w' → post w' a → Safe w' (f a) post') : Safe w (m >>= f) post' := by
  intro s hs hg
  obtain ⟨hleads, hpost⟩ := hm s hs hg
  rw [run_bind]
  rcases hrun : m.run.run s with ⟨_ | a, next⟩ <;> rw [hrun] at hleads hpost
  · exact ⟨hleads, nofun⟩
  · obtain ⟨hnext, hresult⟩ :=
      hf a next.workspace (hg.trans hleads.2) (hpost a rfl) next hleads.1 (.refl _)
    exact ⟨hleads.trans hnext, hresult⟩

end Safe

end EvalM

open EvalM

namespace Host

/-- Whether the functions of a host, called on values that are known, lead on
and come to such values. -/
structure Safe (host : Host (Session τ)) : Prop where
  call : ∀ (w : Workspace) f this arguments, w.Knows this → (∀ value ∈ arguments, w.Knows value) →
    EvalM.Safe w (host.call f this arguments) Workspace.Knows
  note : ∀ receiver method arguments s, host.noteBuiltin receiver method arguments s = s

variable {host : Host (Session τ)} (hp : host.Safe) {w : Workspace}
include hp

theorem callValue_safe (callee : Value) {this : Value} {arguments : List Value} (label : String)
    (hthis : w.Knows this) (harguments : ∀ value ∈ arguments, w.Knows value) :
    EvalM.Safe w (host.callValue callee this arguments label) Workspace.Knows := by
  cases callee with
  | function f => exact hp.call w f this arguments hthis harguments
  | _ => exact Safe.throw' _

theorem callBuiltin_safe (receiver : Value) (method : String) (arguments : List Value) :
    EvalM.Safe w (host.callBuiltin receiver method arguments) Workspace.Knows := by
  have hnote : EvalM.Safe w (modify (host.noteBuiltin receiver method arguments) :
      EvalM (Session τ) Unit) fun _ _ => True := by
    intro s hs _
    refine ⟨?_, fun _ _ => trivial⟩
    change s.Leads (host.noteBuiltin receiver method arguments s)
    rw [hp.note]
    exact hs.stay
  unfold callBuiltin
  refine hnote.bind' fun _ w' _ _ => Safe.ofExcept' fun w'' _ _ result hr => ?_
  exact (Value.plain_callBuiltin hr).mentionsOnly _

theorem applyBinary_safe (symbol : String) {left right : Value} (hleft : w.Knows left)
    (hright : w.Knows right) :
    EvalM.Safe w (host.applyBinary symbol left right) Workspace.Knows := by
  -- Only a filter makes a call; all else but `&&` and `||` comes to plain values.
  have hplain : ∀ r : Except EvalError Value, (∀ value, r = .ok value → value.Plain) →
      EvalM.Safe w (EvalM.ofExcept r : EvalM (Session τ) Value) Workspace.Knows :=
    fun r hr => Safe.ofExcept' fun _ _ _ value hv => (hr value hv).mentionsOnly _
  have hboolean : ∀ b, EvalM.Safe w (pure (.boolean b) : EvalM (Session τ) Value) Workspace.Knows :=
    fun b => Safe.pure' fun _ _ _ => (Value.plain_boolean b).mentionsOnly _
  have heither : ∀ value, w.Knows value →
      EvalM.Safe w (pure value : EvalM (Session τ) Value) Workspace.Knows :=
    fun value hv => Safe.pure' fun _ _ hg => hv.grow hg
  unfold applyBinary
  split
  · rename_i operator _
    cases operator with
    | arithmetic operation =>
      cases operation with
      | add => exact hplain _ fun _ => Value.plain_add
      | _ => exact hplain _ fun _ => Value.plain_combine
    | compare comparison => exact hplain _ fun _ => Value.plain_compare
    | or => exact heither _ (by split; exact hleft; exact hright)
    | and => exact heither _ (by split; exact hright; exact hleft)
    | filter =>
      refine callValue_safe hp right _ Workspace.knows_undefined fun value hv => ?_
      exact List.mem_singleton.mp hv ▸ hleft
    | _ => exact hboolean _
  · exact Safe.throw' _

end Host

namespace Expr

section

variable {host : Host (Session τ)} {scope : Scope}

/-- The computation of a value, safe wherever the scope is settled. -/
def SafeIn (host : Host (Session τ)) (scope : Scope) (e : Expr) : Prop :=
  ∀ w : Workspace, w.Settled scope → EvalM.Safe w (e.eval host scope) Workspace.Knows

theorem evalItems_safe {items : List Expr} (h : ∀ item ∈ items, SafeIn host scope item)
    (w : Workspace) (hs : w.Settled scope) :
    EvalM.Safe w (evalItems host scope items) fun w values => ∀ value ∈ values, w.Knows value := by
  induction items generalizing w with
  | nil => exact Safe.pure' fun _ _ _ => nofun
  | cons item items ih =>
    simp only [evalItems]
    refine (h item List.mem_cons_self w hs).bind' fun value w' hg hv => ?_
    refine (ih (fun other ho => h other (List.mem_cons_of_mem _ ho)) w' (hs.grow hg)).bind'
      fun values w'' hg' hvs => Safe.pure' fun w''' _ hg'' => ?_
    have hrest : ∀ other ∈ values, w'''.Knows other := fun other ho => (hvs other ho).grow hg''
    exact List.forall_mem_cons.mpr ⟨hv.grow (hg'.trans hg''), hrest⟩

theorem evalEntries_safe {entries : List (String × Expr)}
    (h : ∀ entry ∈ entries, SafeIn host scope entry.2) (w : Workspace) (hs : w.Settled scope) :
    EvalM.Safe w (evalEntries host scope entries)
      fun w values => ∀ entry ∈ values, w.Knows entry.2 := by
  induction entries generalizing w with
  | nil => exact Safe.pure' fun _ _ _ => nofun
  | cons entry entries ih =>
    simp only [evalEntries]
    refine (h entry List.mem_cons_self w hs).bind' fun value w' hg hv => ?_
    refine (ih (fun other ho => h other (List.mem_cons_of_mem _ ho)) w' (hs.grow hg)).bind'
      fun values w'' hg' hvs => Safe.pure' fun w''' _ hg'' => ?_
    have hrest : ∀ other ∈ values, w'''.Knows other.2 := fun other ho => (hvs other ho).grow hg''
    exact List.forall_mem_cons.mpr ⟨hv.grow (hg'.trans hg''), hrest⟩

theorem knows_implicitThis {w : Workspace} (hw : w.Sound) (hs : w.Settled scope) :
    w.Knows (implicitThis scope) := by
  unfold implicitThis
  split
  · exact .scope' hs
  · exact hw.knows_lookup (Or.inr hs) "this"

/-- The evaluation of an expression leads on, where the functions of the host
do. -/
theorem eval_safe (hp : host.Safe) (e : Expr) : SafeIn host scope e := by
  induction e using Expr.induct with
  | empty => exact fun w hs => Safe.pure' fun _ _ hg => .scope' (hs.grow hg)
  | literal value =>
    exact fun w _ => Safe.pure' fun _ _ _ => (Value.plain_ofLiteral value).mentionsOnly _
  | id name =>
    intro w hs
    refine Safe.pure' fun w' hw hg => ?_
    split
    · exact .scope' (hs.grow hg)
    · exact hw.knows_lookup (Or.inr (hs.grow hg)) name
  | unary operator child ih =>
    intro w hs
    simp only [eval]
    refine (ih w hs).bind' fun operand w' _ hv => Safe.ofExcept' fun w'' _ hg result hr => ?_
    unfold Value.applyUnary at hr
    split at hr
    · cases hr; exact hv.grow hg
    · exact (Value.plain_negate hr).mentionsOnly _
    · cases hr; exact (Value.plain_boolean _).mentionsOnly _
    · cases hr
  | binary operator left right ihl ihr =>
    intro w hs
    simp only [eval]
    refine (ihl w hs).bind' fun l w' hg hl => ?_
    refine (ihr w' (hs.grow hg)).bind' fun r w'' hg' hr => ?_
    exact host.applyBinary_safe hp operator (hl.grow hg') hr
  | getter receiver name ih =>
    intro w hs
    simp only [eval]
    refine (ih w hs).bind' fun value w' _ hv => Safe.ofExcept' fun w'' hw hg result hr => ?_
    exact hw.knows_member (hv.grow hg) hr
  | index receiver argument ihr iha =>
    intro w hs
    simp only [eval]
    refine (ihr w hs).bind' fun value w' hg hv => ?_
    refine (iha w' (hs.grow hg)).bind' fun key w'' hg' _ => ?_
    exact Safe.ofExcept' fun w''' hw hg'' result hr => hw.knows_index (hv.grow (hg'.trans hg'')) hr
  | ternary condition whenTrue whenFalse ihc iht ihf =>
    intro w hs
    simp only [eval]
    refine (ihc w hs).bind' fun value w' hg _ => ?_
    split
    · exact iht w' (hs.grow hg)
    · exact ihf w' (hs.grow hg)
  | map entries ih =>
    intro w hs
    simp only [eval]
    refine (evalEntries_safe ih w hs).bind' fun values w' _ hv => Safe.pure' fun w'' _ hg => ?_
    exact .object' fun entry he => (hv entry (Dict.mem_ofList he)).grow hg
  | list items ih =>
    intro w hs
    simp only [eval]
    refine (evalItems_safe ih w hs).bind' fun values w' _ hv => Safe.pure' fun w'' _ hg => ?_
    exact .array' fun item hi => (hv item hi).grow hg
  | invoke receiver method arguments ihr iha =>
    intro w hs
    cases method with
    | none =>
      simp only [eval]
      refine (ihr w hs).bind' fun callee w' hg _ => ?_
      refine (evalItems_safe iha w' (hs.grow hg)).bind' fun values w'' hg' hvs => ?_
      intro s hsound hg''
      have hgrown := hg.trans (hg'.trans hg'')
      exact host.callValue_safe hp callee _ (knows_implicitThis hsound.workspace (hs.grow hgrown))
        (fun value hv => (hvs value hv).grow hg'') s hsound (.refl _)
    | some method =>
      simp only [eval]
      refine (ihr w hs).bind' fun receiver w' hg hv => ?_
      have hmember : EvalM.Safe w' (EvalM.ofExcept (receiver.member method) :
          EvalM (Session τ) Value) fun _ _ => True := Safe.ofExcept' fun _ _ _ _ _ => trivial
      refine hmember.bind' fun member w'' hg' _ => ?_
      refine (evalItems_safe iha w'' (hs.grow (hg.trans hg'))).bind' fun values w''' hg'' hvs => ?_
      split
      · exact host.callBuiltin_safe hp receiver method values
      · exact host.callValue_safe hp _ _ (hv.grow (hg'.trans hg'')) hvs

end

end Expr

/-! ## Turns and runs -/

namespace Script

variable (script : Script τ)

/-- A reply leads on if its turns do. -/
theorem play_leads {take : Session τ → Turn → Session τ}
    (htake : ∀ (s : Session τ) turn, s.Sound → s.Leads (take s turn)) (reply : Reply τ)
    {s : Session τ} (hs : s.Sound) :
    s.Leads (reply.play take s).2 ∧
      ∀ value, (reply.play take s).1 = .ok value → (reply.play take s).2.workspace.Knows value := by
  induction reply generalizing s with
  | done memory result =>
    refine ⟨hs.remember memory, fun value hv => ?_⟩
    cases result with
    | error e => cases hv
    | ok draft => exact Except.ok.inj hv ▸ hs.knows_valueOf draft
  | step turn next ih =>
    have hfirst := htake s turn hs
    obtain ⟨hrest, hvalue⟩ := ih (take s turn) hfirst.1
    exact ⟨hfirst.trans hrest, hvalue⟩

theorem host_safe {take : Session τ → Turn → Session τ}
    (htake : ∀ (s : Session τ) turn, s.Sound → s.Leads (take s turn)) :
    (script.host take).Safe where
  call := by
    intro w f this arguments hthis harguments s hs hg
    have hheld : s.Leads (s.hold (this :: arguments)) := hs.hold fun value hv => by
      obtain rfl | hv := List.mem_cons.mp hv
      · exact hthis.grow hg
      · exact (harguments value hv).grow hg
    obtain ⟨hrest, hvalue⟩ := play_leads htake (script f this arguments _) hheld.1
    exact ⟨hheld.trans hrest, hvalue⟩
  note _ _ _ _ := rfl

/-- Every turn leads on. -/
theorem take_leads (depth : Nat) (s : Session τ) (turn : Turn) (hs : s.Sound) :
    s.Leads (script.take depth s turn) := by
  induction depth generalizing s turn with
  | zero =>
    cases turn with
    | move move => exact hs.perform move
    | eval formula slot => exact hs.stay
  | succ depth ih =>
    cases turn with
    | move move => exact hs.perform move
    | eval formula slot =>
      have hshare := hs.perform (.share slot)
      obtain htake | ⟨e, scope, hscope, outcome, hrun, htake⟩ :=
        script.take_eval_cases depth s formula slot
      · exact htake ▸ hshare
      · have hsettled : (s.perform (.share slot)).workspace.Settled scope := by
          refine hshare.1.workspace.settled_of_shared? (Workspace.shared?_share_self ?_)
          rwa [Session.perform, Workspace.scope?_share] at hscope
        obtain ⟨hleads, hvalue⟩ := e.eval_safe (script.host_safe ih) _ hsettled _ hshare.1
          (.refl _)
        rw [hrun] at hleads hvalue
        obtain ⟨result, next⟩ := outcome
        have hheld : next.Leads (next.hold result.toOption.toList) := by
          refine hleads.1.hold fun value hv => hvalue value ?_
          cases result with
          | error e => cases hv
          | ok other => exact congrArg Except.ok (List.mem_singleton.mp hv).symm
        exact htake ▸ hshare.trans (hleads.trans hheld)

/-- Every run leads on. -/
theorem run_leads (depth : Nat) (s : Session τ) (turns : List Turn) (hs : s.Sound) :
    s.Leads (script.run depth s turns) := by
  induction turns generalizing s with
  | nil => exact hs.stay
  | cons turn turns ih =>
    have hfirst := script.take_leads depth s turn hs
    exact hfirst.trans (ih _ hfirst.1)

theorem workspace_sound (depth : Nat) (memory : τ) (turns : List Turn) :
    (script.workspace depth memory turns).Sound :=
  (script.run_leads depth _ turns (Session.sound_start memory)).1.workspace

/-- A longer run keeps what a shorter one has shared. -/
theorem workspace_grows (depth : Nat) (memory : τ) (earlier later : List Turn) :
    (script.workspace depth memory earlier).Grows
      (script.workspace depth memory (earlier ++ later)) := by
  have hsound := (script.run_leads depth _ earlier (Session.sound_start memory)).1
  unfold workspace run
  rw [List.foldl_append]
  exact (script.run_leads depth _ later hsound).2

end Script

end BindingLang
