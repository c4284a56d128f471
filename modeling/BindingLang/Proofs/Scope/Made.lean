import BindingLang.Proofs.Eval.Closed
import BindingLang.Proofs.Json.Reading
import BindingLang.Proofs.Scope.This
/-!
  The scopes that can be made.

  A scope is made as a root with bindings, as a child of a scope there is, or by
  binding a name at the first link of one. What the values are is left open, and
  so is when the scope is shared: the scopes of every session are among these, as
  long as its documents are tidy. Those that are read from a text are.

  What is proved:
    1. `Made.formed`, `Made.sorted` — a link stands for `this` just if the chain
       it is put on left that open, and the bindings of a link are sorted.
    2. `Session.perform_made` — every move with a tidy document leads to scopes
       that can be made.
    3. `Script.workspace_made` — and so does every run of a tidy client, with all
       evaluations and calls within it.
    4. `Json.tidy_of_ofText?` — a document that is read from a text is tidy.
-/

namespace BindingLang

namespace Scope

/-- Chains that are made link by link and binding by binding. -/
inductive Made : Scope → Prop where
  | root (id : Nat) (bindings : List (String × Value)) : Made (root id (Dict.ofList bindings))
  | child (id : Nat) {parent : Scope} (made : Made parent) : Made (child id parent)
  | insert {scope : Scope} (made : Made scope) (name : String) (value : Value) :
    Made (scope.insert name value)

namespace Made

variable {scope : Scope}

theorem formed (h : Made scope) : Formed scope := by
  induction h with
  | root => exact .root rfl
  | child _ _ ih => exact .child ih rfl
  | insert _ name value ih =>
    -- An insertion leaves the flag of its link and the chain below as they are.
    cases ih with
    | root flag => exact .root flag
    | child formed flag => exact .child formed flag

theorem sorted (h : Made scope) : ∀ link ∈ scope, Dict.Sorted link.bindings := by
  induction h with
  | root id bindings => exact List.forall_mem_singleton.mpr (Dict.sorted_ofList bindings)
  | child id _ ih => exact List.forall_mem_cons.mpr ⟨List.Pairwise.nil, ih⟩
  | @insert scope _ name value ih =>
    cases scope with
    | nil => exact nofun
    | cons link outer =>
      obtain ⟨hlink, houter⟩ := List.forall_mem_cons.mp ih
      exact List.forall_mem_cons.mpr ⟨Dict.sorted_insert hlink name value, houter⟩

end Made

end Scope

/-! ## Workspaces and moves -/

namespace Workspace

variable {w w' : Workspace}

/-- Whether the scopes of all slots are such that can be made. -/
def Made (w : Workspace) : Prop := ∀ slot scope, w.scope? slot = some scope → scope.Made

theorem made_empty : empty.Made := nofun

theorem Made.share (h : w.Made) (shared : Nat) : (w.share shared).Made := fun slot scope hs =>
  h slot scope (scope?_share w shared slot ▸ hs)

theorem Made.add (h : w.Made) {scope : Scope} (hscope : scope.Made) : (w.add scope).Made := by
  intro slot other hs
  rw [scope?_add] at hs
  split at hs
  · cases hs
    exact hscope
  · exact h slot other hs

theorem Made.addChild? (h : w.Made) {parent : Nat} (hc : w.addChild? parent = some w') :
    w'.Made := by
  obtain ⟨scope, hs, rfl⟩ := Option.map_eq_some_iff.mp hc
  exact (h.share parent).add (.child _ (h parent scope hs))

theorem Made.insert (h : w.Made) {slot : Nat} {name : String} {value : Value}
    {previous : Option Value} (hi : w.insert slot name value = .ok (w', previous)) : w'.Made := by
  obtain ⟨scope, howned, -, rfl⟩ := insert_eq_ok hi
  have hscope : scope.Made := h slot scope (by rw [scope?, howned]; rfl)
  intro other changed hs
  rw [scope?, List.getElem?_set] at hs
  split at hs
  · split at hs
    · cases hs
      exact hscope.insert name value
    · cases hs
  · exact h other changed hs

end Workspace

/-! ## Documents -/

/-- Whether the keys of the document, if it is an object, are distinct and in
order. -/
def Json.Tidy : Json → Prop
  | .object entries => Dict.Sorted entries
  | _ => True

theorem Json.tidy_of_ofText? {text : String} {document : Json}
    (h : Json.ofText? text = some document) : document.Tidy := by
  cases document with
  | object entries => exact (Json.object_of_ofText? h).1
  | _ => trivial

theorem Value.entriesOfJson_eq (entries : List (String × Json)) :
    entriesOfJson entries = entries.map fun entry => (entry.1, ofJson entry.2) := by
  induction entries with
  | nil => rfl
  | cons entry entries ih => rw [entriesOfJson, ih, List.map_cons]

/-- The scope of a tidy document is a root with the values of its entries. -/
theorem Scope.made_of_ofJson? {id : Nat} {document : Json} {scope : Scope} (h : document.Tidy)
    (hs : Scope.ofJson? id document = some scope) : scope.Made := by
  cases document with
  | object entries =>
    cases hs
    have hsorted : Dict.Sorted (Value.entriesOfJson entries) :=
      Value.entriesOfJson_eq entries ▸ Dict.sorted_map Value.ofJson h
    rw [← Dict.ofList_of_sorted hsorted]
    exact .root id _
  | _ => cases hs

theorem Workspace.Made.addDocument? {w w' : Workspace} (h : w.Made) {document : Json}
    (htidy : document.Tidy) (hd : w.addDocument? document = some w') : w'.Made := by
  obtain ⟨scope, hs, rfl⟩ := Option.map_eq_some_iff.mp hd
  exact h.add (Scope.made_of_ofJson? htidy hs)

/-! ## Clients with tidy documents -/

/-- Whether the move makes the scope of a tidy document, if of any. -/
def Move.Tidy : Move → Prop
  | .document source => source.Tidy
  | _ => True

def Turn.Tidy : Turn → Prop
  | .move made => made.Tidy
  | .eval _ _ => True

/-- Whether all turns of the reply are tidy, however the session goes on. -/
inductive Reply.Tidy {τ : Type} : Reply τ → Prop where
  | done (memory : τ) (result : Except EvalError Draft) : Tidy (.done memory result)
  | step {turn : Turn} {next : Session τ → Reply τ} (first : turn.Tidy)
      (rest : ∀ s, Tidy (next s)) : Tidy (.step turn next)

/-- Whether all that the client's functions do is tidy. -/
def Script.Tidy {τ : Type} (script : Script τ) : Prop :=
  ∀ f this arguments s, (script f this arguments s).Tidy

variable {τ : Type}

/-- Every tidy move leads to scopes that can be made. -/
theorem Session.perform_made {s : Session τ} (h : s.workspace.Made) {move : Move}
    (htidy : move.Tidy) : (s.perform move).workspace.Made := by
  have htry : ∀ next : Option Workspace, (∀ w, next = some w → w.Made) →
      (next.getD s.workspace).Made := by
    rintro (_ | w) hnext
    · exact h
    · exact hnext w rfl
  cases move with
  | root bindings => exact h.add (.root _ _)
  | document document => exact htry _ fun w hd => h.addDocument? htidy hd
  | child parent => exact htry _ fun w hc => h.addChild? hc
  | share slot => exact h.share slot
  | insert slot name value =>
    simp only [Session.perform]
    split
    · rename_i w previous hi
      exact h.insert hi
    · exact h
  | formula formula => exact h

namespace Script

variable {script : Script τ}

/-- A reply leads to such scopes if its turns do. -/
theorem play_made {take : Session τ → Turn → Session τ}
    (htake : ∀ (s : Session τ) turn, s.workspace.Made → turn.Tidy → (take s turn).workspace.Made)
    {reply : Reply τ} (htidy : reply.Tidy) {s : Session τ} (h : s.workspace.Made) :
    (reply.play take s).2.workspace.Made := by
  induction htidy generalizing s with
  | done memory result => exact h
  | step first _ ih => exact ih _ (htake s _ h first)

/-- Every tidy turn leads to scopes that can be made. -/
theorem take_made (hscript : script.Tidy) (depth : Nat) (s : Session τ) (turn : Turn)
    (h : s.workspace.Made) (htidy : turn.Tidy) : (script.take depth s turn).workspace.Made := by
  induction depth generalizing s turn with
  | zero =>
    cases turn with
    | move move => exact Session.perform_made h htidy
    | eval formula slot => exact h
  | succ depth ih =>
    cases turn with
    | move move => exact Session.perform_made h htidy
    | eval formula slot =>
      have hshare : (s.perform (.share slot)).workspace.Made := h.share slot
      -- The turns within calls are a level less deep.
      have hhost : (script.host (script.take depth)).Within fun m =>
          m.Keeps fun s => s.workspace.Made :=
        ⟨fun f this arguments s hs => play_made ih (hscript f this arguments _) hs,
          fun _ _ _ _ hs => hs⟩
      obtain htake | ⟨e, scope, -, outcome, hrun, htake⟩ :=
        script.take_eval_cases depth s formula slot
      · exact htake ▸ hshare
      · have hkept := Expr.eval_keeps hhost scope e _ hshare
        rw [hrun] at hkept
        exact htake ▸ hkept

/-- In every run of a client with tidy documents, all scopes are such that can be
made. -/
theorem workspace_made (hscript : script.Tidy) (depth : Nat) (memory : τ) {turns : List Turn}
    (hturns : ∀ turn ∈ turns, turn.Tidy) : (script.workspace depth memory turns).Made := by
  have hrun : ∀ s : Session τ, s.workspace.Made → (script.run depth s turns).workspace.Made := by
    induction turns with
    | nil => exact fun _ h => h
    | cons turn turns ih =>
      obtain ⟨hturn, hrest⟩ := List.forall_mem_cons.mp hturns
      exact fun s h => ih hrest _ (take_made hscript depth s turn h hturn)
  exact hrun _ Workspace.made_empty

end Script

end BindingLang
