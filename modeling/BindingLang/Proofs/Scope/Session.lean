import BindingLang.Scope.Workspace
/-!
  Sessions: all that can be done with a workspace from outside.

  A client makes scopes, binds names at those it still owns, shares them, and
  evaluates formulas in them. The functions that it puts into scopes are its own
  as well, so while a formula is evaluated they do the same, further evaluations
  included. Outside the library a scope that can still be changed is no value: a
  client writes its values as drafts, in which a scope stands by the number of
  its slot and counts only once it is shared, and a value that has come out
  earlier (an argument of one of the client's functions, the result of an
  evaluation, what an insertion replaced) by the place where it is held.

  A run is a list of turns, of any length and in any order. What the client's
  functions do is a `Script`: it chooses turn after turn, in view of all of the
  session and of a memory of its own. Evaluations may stand within the calls of
  other ones to any depth; `depth` is how deep they are followed.
-/

namespace BindingLang

/-- A value as a client writes it. -/
inductive Draft where
  | undefined
  | literal (value : Literal)
  | function (f : Function)
  | array (items : List Draft)
  | object (entries : List (String × Draft))
  /-- The scope of a slot, once it is shared. -/
  | scope (slot : Nat)
  /-- A value that has come out earlier. -/
  | held (place : Nat)
  /-- What another value holds under a key: an item, an entry, or what a scope
  says of a name. -/
  | part (of key : Draft)
  /-- The parent of a scope. -/
  | parent (of : Draft)

namespace Draft

section

variable (w : Workspace) (held : List Value)

mutual

/-- The value of a draft, undefined where there is none. -/
def value : Draft → Value
  | .undefined => .undefined
  | .literal constant => Value.ofLiteral constant
  | .function f => .function f
  | .array items => .array (values items)
  | .object entries => .object (Dict.ofList (valuesOfEntries entries))
  | .scope slot => ((w.shared? slot).map Value.scope).getD .undefined
  | .held place => held[place]?.getD .undefined
  | .part of key => ((value of).index (value key)).toOption.getD .undefined
  | .parent of =>
    match value of with
    | .scope links => ((Scope.parent? links).map Value.scope).getD .undefined
    | _ => .undefined
termination_by structural draft => draft

def values : List Draft → List Value
  | [] => []
  | item :: items => value item :: values items
termination_by structural items => items

def valuesOfEntries : List (String × Draft) → List (String × Value)
  | [] => []
  | (key, draft) :: entries => (key, value draft) :: valuesOfEntries entries
termination_by structural entries => entries

end

end

end Draft

/-- What a client does with a workspace in one step. -/
inductive Move where
  /-- Makes a scope of one link, with the given bindings or none. -/
  | root (bindings : List (String × Draft))
  /-- Makes the scope of a document. -/
  | document (document : Json)
  /-- Makes a child of a scope, which is thereby shared. -/
  | child (parent : Nat)
  | share (slot : Nat)
  /-- Binds a name, where the scope is still owned. -/
  | insert (slot : Nat) (name : String) (value : Draft)
  | formula (formula : Formula)

/-- A workspace, the values that have come out of it, and what else the client
remembers. -/
structure Session (τ : Type) where
  workspace : Workspace
  held : List Value
  memory : τ

namespace Session

variable {τ : Type}

/-- Before the first turn. -/
def start (memory : τ) : Session τ := ⟨.empty, [], memory⟩

/-- The session with values that have come out. -/
def hold (s : Session τ) (values : List Value) : Session τ := { s with held := s.held ++ values }

theorem hold_nil (s : Session τ) : s.hold [] = s := by rw [hold, List.append_nil]

/-- The value of a draft as things stand. -/
def valueOf (s : Session τ) (draft : Draft) : Value := draft.value s.workspace s.held

/-- The session after a move; one that cannot be made changes nothing. -/
def perform (s : Session τ) : Move → Session τ
  | .root bindings =>
    let bindings := Draft.valuesOfEntries s.workspace s.held bindings
    { s with workspace := s.workspace.addRoot (Dict.ofList bindings) }
  | .document document =>
    { s with workspace := (s.workspace.addDocument? document).getD s.workspace }
  | .child parent => { s with workspace := (s.workspace.addChild? parent).getD s.workspace }
  | .share slot => { s with workspace := s.workspace.share slot }
  | .insert slot name value =>
    match s.workspace.insert slot name (s.valueOf value) with
    | .ok (w, previous) => { s with workspace := w }.hold previous.toList
    | .error _ => s
  | .formula formula => { s with workspace := s.workspace.addFormula formula }

end Session

/-- What a client does in one turn: a move, or the evaluation of a formula in
the scope of a slot. -/
inductive Turn where
  | move (move : Move)
  | eval (formula slot : Nat)

/-- What a function of the client does in a call: turns, each chosen when the
ones before it are done, then a change of the memory, and a result. -/
inductive Reply (τ : Type) where
  | done (memory : τ) (result : Except EvalError Draft)
  | step (turn : Turn) (next : Session τ → Reply τ)

/-- The outcome of a reply whose turns `take` takes. -/
def Reply.play {τ : Type} (take : Session τ → Turn → Session τ) :
    Reply τ → Session τ → Except EvalError Value × Session τ
  | .done memory result, s => (result.map s.valueOf, { s with memory })
  | .step turn next, s => (next (take s turn)).play take (take s turn)

/-- What the client's functions do, by the function, by what `this` is, by the
arguments and by the session. -/
def Script (τ : Type) : Type := Function → Value → List Value → Session τ → Reply τ

namespace Script

variable {τ : Type} (script : Script τ)

/-- The surroundings that the client's functions make up, with `take` for their
turns. In a call, `this` and the arguments are held from then on. -/
def host (take : Session τ → Turn → Session τ) : Host (Session τ) where
  call f this arguments := ExceptT.mk fun s =>
    let s := s.hold (this :: arguments)
    (script f this arguments s).play take s

/-- The session after a turn. An evaluation shares the scope it takes place in,
and its result is held; one that is nested too deep is left out. -/
def take : Nat → Session τ → Turn → Session τ
  | _, s, .move move => s.perform move
  | 0, s, .eval _ _ => s
  | depth + 1, s, .eval formula slot =>
    let s := s.perform (.share slot)
    match s.workspace.eval? (script.host (take depth)) formula slot with
    | none => s
    | some evaluation =>
      match evaluation.run.run s with
      | (.ok value, s) => s.hold [value]
      | (.error _, s) => s

/-- An evaluation that is followed finds nothing to evaluate, or it evaluates a formula in the
shared scope of the slot and holds what comes out. -/
theorem take_eval_cases (depth : Nat) (s : Session τ) (formula slot : Nat) :
    script.take (depth + 1) s (.eval formula slot) = s.perform (.share slot) ∨
      ∃ (e : Expr) (scope : Scope), (s.perform (.share slot)).workspace.scope? slot = some scope ∧
        ∃ outcome,
          (e.eval (script.host (script.take depth)) scope).run.run (s.perform (.share slot)) =
            outcome ∧
          script.take (depth + 1) s (.eval formula slot) =
            outcome.2.hold outcome.1.toOption.toList := by
  simp only [take]
  split
  · exact .inl rfl
  · rename_i evaluation heval
    obtain ⟨f, -, heval⟩ := Option.bind_eq_some_iff.mp heval
    obtain ⟨scope, hscope, heval⟩ := Option.bind_eq_some_iff.mp heval
    cases heval
    split
    · rename_i value next hrun
      exact .inr ⟨f.expr, scope, hscope, _, hrun, rfl⟩
    · rename_i e next hrun
      exact .inr ⟨f.expr, scope, hscope, _, hrun, next.hold_nil.symm⟩

/-- The session after a run. -/
def run (depth : Nat) (s : Session τ) (turns : List Turn) : Session τ :=
  turns.foldl (script.take depth) s

/-- The workspace that a run leads to from the start. -/
def workspace (depth : Nat) (memory : τ) (turns : List Turn) : Workspace :=
  (script.run depth (.start memory) turns).workspace

end Script

end BindingLang
