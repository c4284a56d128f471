import BindingLang.Pattern.Bracket
import BindingLang.Text.Category
import BindingLang.Text.Ranges
/-!
  Reading patterns.

  The notation is the usual one without look-around and back-references:
  alternation, groups with names and flags, repetitions, escapes, and classes
  in brackets with set operations. A text that is no pattern reads as `none`.
-/

namespace BindingLang

namespace Pattern

namespace Read

/-- Whether the character may stand in the name of a group. -/
def isNameChar (first : Bool) (c : Char) : Bool :=
  let alphabetic :=
    [Text.Category.uppercaseLetter, Text.Category.lowercaseLetter, Text.Category.titlecaseLetter,
      Text.Category.modifierLetter, Text.Category.otherLetter, Text.Category.letterNumber,
      Text.Category.otherAlphabetic]
  let numeric := [Text.Category.decimalNumber, Text.Category.otherNumber]
  let inAny (sets : List (List Nat)) : Bool := sets.any fun ranges => Text.inRanges ranges c.toNat
  c == '_' || inAny alphabetic ||
    (!first && (inAny numeric || c == '.' || c == '[' || c == ']'))

/-- The name of a group up to its closing angle, which no other group has. -/
def groupName : Read Unit := do
  let place ← get
  let name := place.rest.takeWhile (· != '>')
  let rest := place.rest.drop name.length
  match name with
  | [] => failure
  | first :: others =>
    need (isNameChar true first && others.all (isNameChar false) && !rest.isEmpty)
    let name := String.ofList name
    need (!place.names.contains name)
    set { place with rest := rest.tail, names := name :: place.names }

/-- The switch of a letter. -/
def flag? (c : Char) : Option Flag :=
  if c = 'i' then some .ignoreCase
  else if c = 'm' then some .multiLine
  else if c = 's' then some .dotAll
  else if c = 'U' then some .swapGreed
  else if c = 'u' then some .unicode
  else if c = 'R' then some .crlf
  else if c = 'x' then some .loose
  else none

/-- The switches of a list of letters; a minus switches off those after it,
and stands once, before at least one letter. No letter stands twice. -/
def flagsOf : Bool → List Flag → List Char → Option FlagChange
  | _, _, [] => some []
  | off, seen, '-' :: rest =>
    if off ∨ rest.isEmpty then none else flagsOf true seen rest
  | off, seen, c :: rest =>
    match flag? c with
    | some flag =>
      if seen.contains flag then none
      else (flagsOf off (flag :: seen) rest).map ((flag, !off) :: ·)
    | none => none

/-- The switches up to a colon or a closing parenthesis, which is passed over
and told. -/
def groupFlags : Read (FlagChange × Char) := do
  let place ← get
  let letters := place.rest.takeWhile fun c => c != ':' && c != ')'
  match place.rest.drop letters.length, flagsOf false [] letters with
  | stop :: rest, some change =>
    set { place with rest }
    return (change, stop)
  | _, _ => failure

/-- Whether blanks stand for nothing after a change of switches. -/
def looseAfter (change : FlagChange) (loose : Bool) : Bool :=
  change.foldl (fun loose entry => if entry.1 = .loose then entry.2 else loose) loose

/-- The items read, last one first, in a row. -/
def sequenceOf (items : List Pattern) : Pattern :=
  match items with
  | [] => .empty
  | [item] => item
  | items => .sequence items.reverse

/-- The alternation of the branches read, last one first. -/
def alternationOf (branches : List Pattern) : Pattern :=
  match branches with
  | [branch] => branch
  | branches => .alternation branches.reverse

/-- Whether something that can be repeated was read last. -/
def isRepeatable : Pattern → Bool
  | .empty => false
  | .flags _ => false
  | _ => true

/-- Repeats what was read last. -/
def repeatLast (least : Nat) (most : Option Nat) : List Pattern → Read (List Pattern)
  | last :: items =>
    if isRepeatable last then pure (.repeated least most last :: items) else failure
  | [] => failure

/-- Passes over the question mark that makes a repetition reluctant. -/
def skipReluctant : Read Unit := do
  if (← peek?) = some '?' then
    let _ ← bump

/-- A repetition by one sign. -/
def signRepetition (sign : Char) (items : List Pattern) : Read (List Pattern) := do
  let items ← repeatLast (if sign = '+' then 1 else 0) (if sign = '?' then some 1 else none) items
  let _ ← bump
  skipReluctant
  return items

/-- A repetition by a count in braces. -/
def countRepetition (items : List Pattern) : Read (List Pattern) := do
  need (← bumpLoose)
  match ← decimal? with
  | none => failure
  | some least =>
    let most ← do
      if (← peek?) = some ',' then
        need (← bumpLoose)
        if (← peek?) = some '\x7d' then pure none
        else
          let some most ← decimal? | failure
          pure (some most)
      else pure (some least)
    need ((← peek?) = some '\x7d')
    need ((most.map fun most => decide (least ≤ most)).getD true)
    if ← bumpLoose then skipReluctant
    repeatLast least most items

/-- A dot, an anchor, an escape or a character. -/
def primitive (c : Char) : Read Pattern := do
  if c = '\\' then escape
  else
    let _ ← bump
    if c = '.' then return .any
    else if c = '^' then return .anchor .lineStart
    else if c = '$' then return .anchor .lineEnd
    else return .char c false

/-- Whether look-around stands ahead, which patterns do not have. -/
def looksAround : Read Bool := do
  let rest := (← get).rest
  return ["?=", "?!", "?<=", "?<!"].any fun word => word.toList.isPrefixOf rest

mutual

/-- The branches up to a closing parenthesis or the end. -/
def body : Nat → List Pattern → List Pattern → Read Pattern
  | 0, _, _ => failure
  | fuel + 1, branches, items => do
    skipLoose
    match ← peek? with
    | none => return alternationOf (sequenceOf items :: branches)
    | some c =>
      if c = ')' then return alternationOf (sequenceOf items :: branches)
      else if c = '|' then
        let _ ← bump
        body fuel (sequenceOf items :: branches) []
      else if c = '(' then
        let item ← group fuel
        body fuel branches (item :: items)
      else if c = '[' then
        let set ← bracket fuel
        body fuel branches (.chars set :: items)
      else if c = '?' ∨ c = '*' ∨ c = '+' then
        body fuel branches (← signRepetition c items)
      else if c = '\x7b' then
        body fuel branches (← countRepetition items)
      else
        let item ← primitive c
        body fuel branches (item :: items)
termination_by structural fuel => fuel

/-- A group, or flags for the rest of the group around them. -/
def group : Nat → Read Pattern
  | 0 => failure
  | fuel + 1 => do
    let _ ← bump
    skipLoose
    need !(← looksAround)
    let outer := (← get).loose
    if ← accept "?P<" then
      groupName
      groupBody fuel outer []
    else if ← accept "?<" then
      groupName
      groupBody fuel outer []
    else if ← accept "?" then
      let (change, stop) ← groupFlags
      modify fun place => { place with loose := looseAfter change place.loose }
      if stop = ')' then
        need (!change.isEmpty)
        return .flags change
      else groupBody fuel outer change
    else groupBody fuel outer []
termination_by structural fuel => fuel

/-- The branches of a group and its closing parenthesis. -/
def groupBody : Nat → Bool → FlagChange → Read Pattern
  | 0, _, _ => failure
  | fuel + 1, outer, change => do
    let inner ← body fuel [] []
    need ((← peek?) = some ')')
    let _ ← bump
    modify fun place => { place with loose := outer }
    return .group change inner
termination_by structural fuel => fuel

end

end Read

/-- How deep patterns may nest. -/
def deepest : Nat := 250

/-- The pattern that a text writes. -/
def ofText? (text : String) : Option Pattern :=
  let chars := text.toList
  match (Read.body (3 * chars.length + 1) [] []).run ⟨chars, false, []⟩ with
  | some (pattern, place) =>
    if place.rest.isEmpty ∧ pattern.depth ≤ deepest then some pattern else none
  | none => none

end Pattern

end BindingLang
