/-!
  Patterns: regular expressions over characters, as they are written.

  A `Pattern` keeps what its text says, flags included; `Pattern.Node` (in
  `Pattern.Meaning`) is what it means once the flags are worked in.
-/

namespace BindingLang

namespace Pattern

/-- The classes with a letter of their own. -/
inductive Shorthand where
  | digit
  | space
  | word
  deriving DecidableEq, Repr

/-- The named classes of ASCII characters. -/
inductive AsciiClass where
  | alnum
  | alpha
  | ascii
  | blank
  | cntrl
  | digit
  | graph
  | lower
  | print
  | punct
  | space
  | upper
  | word
  | xdigit
  deriving DecidableEq, Repr

/-- What a class of characters is asked for by: the name of a property, or a
property and one of its values. -/
inductive Query where
  | named (name : String)
  | valued (property value : String)
  deriving DecidableEq, Repr

/-- The operations on two sets. -/
inductive SetOperation where
  | intersection
  | difference
  | symmetricDifference
  deriving DecidableEq, Repr

/-- A set of characters. A character written by two hexadecimal digits is told
from others, since it may stand for a byte. -/
inductive CharSet where
  | char (c : Char) (byte : Bool)
  | range (first last : Char) (byte : Bool)
  | ascii (kind : AsciiClass) (negated : Bool)
  | shorthand (kind : Shorthand) (negated : Bool)
  | property (query : Query) (negated : Bool)
  | bracket (negated : Bool) (inner : CharSet)
  | union (items : List CharSet)
  | combine (operation : SetOperation) (left right : CharSet)

/-- The places that a pattern can ask for. -/
inductive Anchor where
  | lineStart
  | lineEnd
  | textStart
  | textEnd
  | wordBoundary
  | notWordBoundary
  | wordStart
  | wordEnd
  | wordStartHalf
  | wordEndHalf
  deriving DecidableEq, Repr

/-- The switches of a pattern. -/
inductive Flag where
  | ignoreCase
  | multiLine
  | dotAll
  | swapGreed
  | unicode
  | crlf
  /-- Blanks and comments in the pattern stand for nothing. -/
  | loose
  deriving DecidableEq, Repr

/-- Switches set on and off, in the order written. -/
abbrev FlagChange := List (Flag × Bool)

end Pattern

open Pattern in
/-- A pattern as written. Whether a repetition is greedy is left out: it
decides where a match ends, and never whether there is one. -/
inductive Pattern where
  | empty
  /-- Flags set for the rest of the group. -/
  | flags (change : FlagChange)
  | char (c : Char) (byte : Bool)
  /-- The dot. -/
  | any
  | anchor (place : Anchor)
  | chars (set : CharSet)
  | repeated (least : Nat) (most : Option Nat) (inner : Pattern)
  | group (change : FlagChange) (inner : Pattern)
  | alternation (branches : List Pattern)
  | sequence (items : List Pattern)

namespace Pattern

namespace CharSet

mutual

/-- How deep brackets, unions and operations nest. -/
def depth : CharSet → Nat
  | .char _ _ => 0
  | .range _ _ _ => 0
  | .ascii _ _ => 0
  | .shorthand _ _ => 0
  | .property _ _ => 0
  | .bracket _ inner => depth inner + 1
  | .union items => depthOfAll items + 1
  | .combine _ left right => max (depth left) (depth right) + 1
termination_by structural s => s

def depthOfAll : List CharSet → Nat
  | [] => 0
  | item :: items => max (depth item) (depthOfAll items)
termination_by structural items => items

end

end CharSet

mutual

/-- How deep groups, repetitions, alternations and sequences nest. -/
def depth : Pattern → Nat
  | .empty => 0
  | .flags _ => 0
  | .char _ _ => 0
  | .any => 0
  | .anchor _ => 0
  | .chars set => set.depth
  | .repeated _ _ inner => depth inner + 1
  | .group _ inner => depth inner + 1
  | .alternation branches => depthOfAll branches + 1
  | .sequence items => depthOfAll items + 1
termination_by structural p => p

def depthOfAll : List Pattern → Nat
  | [] => 0
  | item :: items => max (depth item) (depthOfAll items)
termination_by structural items => items

end

end Pattern

end BindingLang
