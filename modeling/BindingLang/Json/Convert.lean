import BindingLang.Json.Basic
import BindingLang.Scope.Basic
/-!
  Values as JSON, and JSON as values.

  What has no JSON form (what is undefined, functions, numbers that are
  infinite or none) becomes null. A scope becomes the object of everything
  visible in its chain.
-/

namespace BindingLang

namespace Value

mutual

/-- The value of a document. -/
def ofJson : Json → Value
  | .null => .null
  | .boolean b => .boolean b
  | .integer n => .integer n
  | .float x => .float x
  | .string s => .string s
  | .array items => .array (itemsOfJson items)
  | .object entries => .object (entriesOfJson entries)
termination_by structural document => document

def itemsOfJson : List Json → List Value
  | [] => []
  | item :: items => ofJson item :: itemsOfJson items
termination_by structural items => items

def entriesOfJson : List (String × Json) → List (String × Value)
  | [] => []
  | (key, document) :: entries => (key, ofJson document) :: entriesOfJson entries
termination_by structural entries => entries

end

mutual

/-- The document of a value. -/
def toJson : Value → Json
  | .undefined => .null
  | .null => .null
  | .boolean b => .boolean b
  | .integer n => .integer n
  | .float x => Json.ofFloat x
  | .string s => .string s
  | .array items => .array (itemsToJson items)
  | .object entries => .object (entriesToJson entries)
  | .function _ => .null
  | .scope links => .object (visibleToJson links)
termination_by structural value => value

def itemsToJson : List Value → List Json
  | [] => []
  | item :: items => toJson item :: itemsToJson items
termination_by structural items => items

def entriesToJson : List (String × Value) → List (String × Json)
  | [] => []
  | (key, value) :: entries => (key, toJson value) :: entriesToJson entries
termination_by structural entries => entries

/-- The documents of everything visible in a chain, nearer bindings in place of
farther ones. -/
def visibleToJson : List (Link Value) → List (String × Json)
  | [] => []
  | ⟨_, bindings, _⟩ :: outer => Dict.overlay (visibleToJson outer) (entriesToJson bindings)
termination_by structural links => links

end

end Value

namespace Scope

/-- The scope of one link that an object's entries are bound in. -/
def ofJson? (id : Nat) : Json → Option Scope
  | .object entries => some (root id (Value.entriesOfJson entries))
  | _ => none

end Scope

end BindingLang
