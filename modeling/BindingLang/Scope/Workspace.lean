import BindingLang.Eval.Basic
import BindingLang.Expr.Names
import BindingLang.Expr.Parser
import BindingLang.Json.Convert
import BindingLang.Json.Reader
/-!
  Workspaces: scopes in the making, and formulas to evaluate in them.

  A scope is made in a slot and numbered by it. While the slot owns its scope,
  names can be bound at it; once the scope is shared, as the parent of another
  one, within a value or for an evaluation, it stays as it is for good. Every
  chain that holds a shared scope therefore holds the scope of its slot.
-/

namespace BindingLang

/-- A place for a scope: open to changes, or shared and fixed. -/
inductive Slot where
  | owned (scope : Scope)
  | shared (scope : Scope)

namespace Slot

def scope : Slot → Scope
  | .owned scope => scope
  | .shared scope => scope

def isShared : Slot → Bool
  | .owned _ => false
  | .shared _ => true

/-- The slot with its scope fixed. -/
def share (slot : Slot) : Slot := .shared slot.scope

end Slot

/-- The slots and the formulas of a session, each numbered from zero. -/
structure Workspace where
  slots : List Slot
  formulas : List Formula

namespace Workspace

def empty : Workspace := ⟨[], []⟩

/-- The number of the next slot. -/
def nextSlot (w : Workspace) : Nat := w.slots.length

/-- The scope of a slot. -/
def scope? (w : Workspace) (slot : Nat) : Option Scope := w.slots[slot]?.map Slot.scope

/-- The scope of a slot that is shared. -/
def shared? (w : Workspace) (slot : Nat) : Option Scope :=
  match w.slots[slot]? with
  | some (.shared scope) => some scope
  | _ => none

/-- Adds a slot that owns `scope`. -/
def add (w : Workspace) (scope : Scope) : Workspace :=
  { w with slots := w.slots ++ [.owned scope] }

/-- Adds a scope of one link. -/
def addRoot (w : Workspace) (bindings : Dict Value) : Workspace :=
  w.add (Scope.root w.nextSlot bindings)

/-- Adds the scope of a document, if it is an object. -/
def addDocument? (w : Workspace) (document : Json) : Option Workspace :=
  (Scope.ofJson? w.nextSlot document).map w.add

/-- Fixes the scope of a slot. -/
def share (w : Workspace) (slot : Nat) : Workspace :=
  { w with slots := w.slots.modify slot Slot.share }

/-- Adds a child of the scope of a slot, which is thereby shared. -/
def addChild? (w : Workspace) (parent : Nat) : Option Workspace :=
  (w.scope? parent).map fun scope => (w.share parent).add (Scope.child w.nextSlot scope)

/-- Why a name could not be bound. -/
inductive InsertError where
  | noSlot
  | isShared
  deriving DecidableEq, Repr

/-- Binds a name at a scope that is still owned, and tells what it stood for
there before. -/
def insert (w : Workspace) (slot : Nat) (name : String) (value : Value) :
    Except InsertError (Workspace × Option Value) :=
  match w.slots[slot]? with
  | none => .error .noSlot
  | some (.shared _) => .error .isShared
  | some (.owned scope) =>
    .ok ({ w with slots := w.slots.set slot (.owned (scope.insert name value)) },
      scope.getLocal? name)

/-- Adds a formula. -/
def addFormula (w : Workspace) (formula : Formula) : Workspace :=
  { w with formulas := w.formulas ++ [formula] }

/-- Adds the formula of a source. -/
def addSource (w : Workspace) (source : String) : Except ParseError Workspace :=
  (Formula.parse source).map w.addFormula

/-- The evaluation of a formula in the scope of a slot, if both exist. It
shares the scope. -/
def eval? {σ : Type} (w : Workspace) (host : Host σ) (formula slot : Nat) :
    Option (EvalM σ Value) := do
  let formula ← w.formulas[formula]?
  let scope ← w.scope? slot
  some (formula.eval host scope)

end Workspace

end BindingLang
