import BindingLang.Text.Blank
/-!
  Places in the text of a pattern, and the steps that readers take there.

  Where a pattern is loose, blanks and comments stand for nothing: `bumpLoose`
  and `skipLoose` pass over them, while `bump` passes over one character only.
-/

namespace BindingLang

namespace Pattern

/-- A place in the text of a pattern: the characters ahead, whether blanks
stand for nothing, and the names of the groups so far. -/
structure Place where
  rest : List Char
  loose : Bool
  names : List String

/-- A reader of part of a pattern. -/
abbrev Read := StateT Place Option

namespace Read

/-- Drops blanks and comments; the flag tells whether a comment is open. -/
def dropLoose : Bool → List Char → List Char
  | _, [] => []
  | true, c :: rest => dropLoose (c != '\n') rest
  | false, c :: rest =>
    if Text.isBlank c then dropLoose false rest
    else if c = '#' then dropLoose true rest
    else c :: rest

/-- The character looked at. -/
def peek? : Read (Option Char) := do return (← get).rest.head?

/-- The next character that stands for something, as far as a class looks for
it to tell a range from a hyphen. -/
def secondLoose? : Read (Option Char) := do
  let place ← get
  let ahead := place.rest.tail
  if !place.loose then return ahead.head?
  let found :=
    match ahead.dropWhile Text.isBlank with
    | '#' :: rest => rest.dropWhile Text.isBlank
    | rest => rest
  return (found.head?.or ahead.head?)

/-- Passes over one character, and tells whether any are left. -/
def bump : Read Bool := do
  modify fun place => { place with rest := place.rest.tail }
  return !(← get).rest.isEmpty

/-- Passes over what stands for nothing. -/
def skipLoose : Read Unit :=
  modify fun place =>
    if place.loose then { place with rest := dropLoose false place.rest } else place

/-- Passes over one character and what stands for nothing after it, and tells
whether any characters are left. -/
def bumpLoose : Read Bool := do
  if ← bump then
    skipLoose
    return !(← get).rest.isEmpty
  else return false

/-- Refuses the text unless `ok`. -/
def need (ok : Bool) : Read Unit := if ok then pure () else failure

/-- Passes over `word` if it stands ahead. -/
def accept (word : String) : Read Bool := do
  let place ← get
  let chars := word.toList
  if chars.isPrefixOf place.rest then
    set { place with rest := place.rest.drop chars.length }
    return true
  else return false

/-- The characters ahead that satisfy `p`, at most `fuel` of them. -/
def collectWithin (p : Char → Bool) : Nat → Read (List Char)
  | 0 => pure []
  | fuel + 1 => do
    match ← peek? with
    | some c =>
      if p c then
        let _ ← bumpLoose
        return c :: (← collectWithin p fuel)
      else return []
    | none => return []

/-- The characters ahead that satisfy `p`. -/
def collect (p : Char → Bool) : Read (List Char) := do
  collectWithin p (← get).rest.length

/-- Passes over blanks, also where they stand for something. -/
def skipBlanks : Read Unit :=
  modify fun place => { place with rest := place.rest.dropWhile Text.isBlank }

end Read

end Pattern

end BindingLang
