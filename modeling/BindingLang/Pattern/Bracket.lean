import BindingLang.Pattern.Escape
/-!
  Reading classes in brackets: characters, ranges, named classes, classes
  within, and the set operations between them.
-/

namespace BindingLang

namespace Pattern

namespace Read

/-- The named class of ASCII characters. -/
def asciiClass? (name : String) : Option AsciiClass :=
  if name = "alnum" then some .alnum
  else if name = "alpha" then some .alpha
  else if name = "ascii" then some .ascii
  else if name = "blank" then some .blank
  else if name = "cntrl" then some .cntrl
  else if name = "digit" then some .digit
  else if name = "graph" then some .graph
  else if name = "lower" then some .lower
  else if name = "print" then some .print
  else if name = "punct" then some .punct
  else if name = "space" then some .space
  else if name = "upper" then some .upper
  else if name = "word" then some .word
  else if name = "xdigit" then some .xdigit
  else none

/-- A named class `[:name:]`, if one stands ahead. -/
def namedClass? : Read (Option CharSet) := do
  let place ← get
  match place.rest with
  | '[' :: ':' :: rest =>
    let negated := rest.head? = some '^'
    let body := if negated then rest.tail else rest
    let name := body.takeWhile (· != ':')
    match body.drop name.length, asciiClass? (String.ofList name) with
    | ':' :: ']' :: rest, some kind =>
      set { place with rest }
      return some (.ascii kind negated)
    | _, _ => return none
  | _ => return none

/-- A character or an escape in a class. -/
def classItem : Read Pattern := do
  match ← peek? with
  | none => failure
  | some c =>
    if c = '\\' then escape
    else
      let _ ← bump
      return .char c false

/-- An item or a range of a class. -/
def classRange : Read CharSet := do
  let first ← classItem
  skipLoose
  need (← peek?).isSome
  let ahead ← secondLoose?
  if (← peek?) ≠ some '-' ∨ ahead = some ']' ∨ ahead = some '-' then
    match first with
    | .char c byte => return .char c byte
    | .chars set => return set
    | _ => failure
  else
    need (← bumpLoose)
    match first, ← classItem with
    | .char a aByte, .char b bByte =>
      need (a ≤ b)
      return .range a b (aByte || bByte)
    | _, _ => failure

/-- The set of the items read, last one first. -/
def unionOf (items : List CharSet) : CharSet :=
  match items with
  | [item] => item
  | items => .union items.reverse

/-- The set of the items read, as the right side of what stands before them. -/
def closeUnion (pending : Option (SetOperation × CharSet)) (items : List CharSet) : CharSet :=
  match pending with
  | some (operation, left) => .combine operation left (unionOf items)
  | none => unionOf items

/-- The hyphens at the start of a class, which stand for themselves. -/
def leadingHyphens : Nat → List CharSet → Read (List CharSet)
  | 0, items => pure items
  | fuel + 1, items => do
    if (← peek?) = some '-' then
      need (← bumpLoose)
      leadingHyphens fuel (.char '-' false :: items)
    else return items

/-- The set operation that stands ahead. -/
def operation? : Read (Option SetOperation) := do
  if ← accept "&&" then return some .intersection
  else if ← accept "--" then return some .difference
  else if ← accept "~~" then return some .symmetricDifference
  else return none

mutual

/-- A class in brackets. -/
def bracket : Nat → Read CharSet
  | 0 => failure
  | fuel + 1 => do
    need (← bumpLoose)
    let negated := (← peek?) = some '^'
    if negated then need (← bumpLoose)
    let hyphens ← leadingHyphens (← get).rest.length []
    if hyphens.isEmpty ∧ (← peek?) = some ']' then
      need (← bumpLoose)
      return .bracket negated (← classBody fuel none [.char ']' false])
    else return .bracket negated (← classBody fuel none hyphens)
termination_by structural fuel => fuel

/-- The rest of a class up to its closing bracket. -/
def classBody : Nat → Option (SetOperation × CharSet) → List CharSet → Read CharSet
  | 0, _, _ => failure
  | fuel + 1, pending, items => do
    skipLoose
    match ← peek? with
    | none => failure
    | some '[' =>
      match ← namedClass? with
      | some named => classBody fuel pending (named :: items)
      | none =>
        let nested ← bracket fuel
        classBody fuel pending (nested :: items)
    | some ']' =>
      let _ ← bump
      return closeUnion pending items
    | some _ =>
      match ← operation? with
      | some operation => classBody fuel (some (operation, closeUnion pending items)) []
      | none =>
        let item ← classRange
        classBody fuel pending (item :: items)
termination_by structural fuel => fuel

end

end Read

end Pattern

end BindingLang
