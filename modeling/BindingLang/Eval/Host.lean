import BindingLang.Value.Builtin
/-!
  Hosts: the surroundings that evaluation takes place in.

  A host runs the functions that it has put into scopes, and is told of every
  call of a built-in method. Its state, of type `σ`, is threaded through an
  evaluation, also through one that fails.
-/

namespace BindingLang

/-- An evaluation in a host with states of type `σ`. -/
abbrev EvalM (σ : Type) := ExceptT EvalError (StateM σ)

/-- Surroundings with states of type `σ`. -/
structure Host (σ : Type) where
  /-- Runs a function on what `this` is and on the arguments. -/
  call : Function → Value → List Value → EvalM σ Value
  /-- Takes note of the call of a built-in method on its receiver. -/
  noteBuiltin : Value → String → List Value → σ → σ := fun _ _ _ state => state

namespace EvalM

variable {σ α : Type}

/-- A result that does not concern the host. -/
def ofExcept (result : Except EvalError α) : EvalM σ α := ExceptT.mk (pure result)

end EvalM

namespace Host

variable {σ : Type}

/-- Calls a value, which has to be a function; `label` tells what was called. -/
def callValue (host : Host σ) (callee this : Value) (arguments : List Value) (label : String) :
    EvalM σ Value :=
  match callee with
  | .function f => host.call f this arguments
  | _ => throw (.notCallable label)

/-- Calls a built-in method. -/
def callBuiltin (host : Host σ) (receiver : Value) (method : String) (arguments : List Value) :
    EvalM σ Value := do
  modify (host.noteBuiltin receiver method arguments)
  EvalM.ofExcept (receiver.callBuiltin method arguments)

end Host

end BindingLang
