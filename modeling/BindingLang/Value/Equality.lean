import BindingLang.Value.Text
/-!
  The three equalities of values.

  `same` is equality within a kind: an integer is never the same as a float,
  objects are the same when they have the same entries, and functions and scopes
  are known by their numbers. `strictEquals` compares numbers of both
  kinds by their value and leaves all else to `same`. `looseEquals` takes
  `null` and `undefined` for one, and reads texts and booleans as numbers where
  they meet a number.
-/

namespace BindingLang

namespace Value

/-- The number of a scope: that of its first link. -/
def scopeId? (scope : Scope) : Option Nat := scope.head?.map Link.id

mutual

/-- Whether two values of one kind are equal. -/
def same : Value → Value → Bool
  | .undefined, .undefined => true
  | .null, .null => true
  | .boolean a, .boolean b => a == b
  | .integer a, .integer b => a == b
  | .float a, .float b => a == b
  | .string a, .string b => a == b
  | .array a, .array b => sameItems a b
  | .object a, .object b => sameEntries a b
  | .function f, .function g => f.id == g.id
  | .scope a, .scope b => scopeId? a == scopeId? b
  | _, _ => false
termination_by structural a => a

/-- Whether two lists have the same items in the same order. -/
def sameItems : List Value → List Value → Bool
  | [], [] => true
  | a :: as, b :: bs => same a b && sameItems as bs
  | _, _ => false
termination_by structural as => as

/-- Whether two dictionaries have the same entries. Both keep them in the order
of their keys, so entry by entry. -/
def sameEntries : List (String × Value) → List (String × Value) → Bool
  | [], [] => true
  | (key, a) :: as, (other, b) :: bs => key == other && same a b && sameEntries as bs
  | _, _ => false
termination_by structural as => as

end

/-- Whether the value is a number. -/
def isNumber : Value → Bool
  | .integer _ => true
  | .float _ => true
  | _ => false

/-- Equality of kind and value, where both kinds of number are one. -/
def strictEquals (left right : Value) : Bool :=
  match left, right with
  | .integer a, .integer b => a == b
  | left, right =>
    if left.isNumber && right.isNumber then left.toNumber == right.toNumber
    else left.same right

/-- Whether the value is a text, a boolean or a number: a scalar that a
number can be compared with. -/
def isScalar : Value → Bool
  | .string _ => true
  | .boolean _ => true
  | .integer _ => true
  | .float _ => true
  | _ => false

/-- Whether both values are texts, or both booleans. -/
def sameScalarKind : Value → Value → Bool
  | .string _, .string _ => true
  | .boolean _, .boolean _ => true
  | _, _ => false

/-- Equality that reads scalars of different kinds as numbers, and takes what
is absent for one. -/
def looseEquals (left right : Value) : Bool :=
  if left.isAbsent || right.isAbsent then left.isAbsent && right.isAbsent
  else if left.isScalar && right.isScalar && !sameScalarKind left right
      && !(left.isNumber && right.isNumber) then
    left.toNumber == right.toNumber
  else left.strictEquals right

end Value

end BindingLang
