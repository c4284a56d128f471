import BindingLang.Value.Basic
/-!
  Scopes: reading names along a chain of links.

  A name is looked up from the nearest link outwards. A child scope stands for
  the name `this` itself, unless some link of its parent already binds it or
  stands for it.
-/

namespace BindingLang

namespace Scope

/-- A scope of one link. -/
def root (id : Nat) (bindings : Dict Value) : Scope := [⟨id, bindings, false⟩]

/-- What `name` stands for, undefined if no link tells. -/
def lookup : Scope → String → Value
  | [], _ => .undefined
  | link :: outer, name =>
    match Dict.get? link.bindings name with
    | some value => value
    | none =>
      if name = "this" ∧ link.bindsThis then .scope (link :: outer) else lookup outer name

/-- Whether some link binds `name`, or stands for it. -/
def contains : Scope → String → Bool
  | [], _ => false
  | link :: outer, name =>
    Dict.contains link.bindings name || (name == "this" && link.bindsThis) || contains outer name

/-- A new scope on top of `parent`, without bindings of its own. -/
def child (id : Nat) (parent : Scope) : Scope := ⟨id, [], !parent.contains "this"⟩ :: parent

/-- The scope with `name` bound at its first link. -/
def insert : Scope → String → Value → Scope
  | [], _, _ => []
  | link :: outer, name, value =>
    { link with bindings := Dict.insert link.bindings name value } :: outer

/-- The bindings of the first link. -/
def localBindings : Scope → Dict Value
  | [] => []
  | link :: _ => link.bindings

/-- The value bound at the first link. -/
def getLocal? (scope : Scope) (name : String) : Option Value := scope.localBindings.get? name

/-- The scope without its first link, if links are left. -/
def parent? : Scope → Option Scope
  | _ :: link :: outer => some (link :: outer)
  | _ => none

/-- Every binding that some link makes, nearer ones in place of farther ones. -/
def visible : Scope → Dict Value
  | [] => []
  | link :: outer => Dict.overlay (visible outer) link.bindings

end Scope

end BindingLang
