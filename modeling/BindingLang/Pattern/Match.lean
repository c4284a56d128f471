import BindingLang.Pattern.Meaning
import BindingLang.Pattern.Reader
/-!
  Matching: whether a pattern occurs in a text.

  A text of `n` characters has `n + 1` places. A node carries a set of places,
  given as one flag for each place, to the places that it can lead to from
  there. A pattern occurs in a text if it leads anywhere from the set of all
  places.
-/

namespace BindingLang

namespace Pattern

/-- A set of places of a text: a flag for each of them, first to last. -/
abbrev Places := List Bool

/-- The places that are in one of two sets. -/
def Places.union (a b : Places) : Places := List.zipWith or a b

/-- The character before and after each place of a text, given the one before
its first place. -/
def surroundings (before : Option Char) : List Char → List (Option Char × Option Char)
  | [] => [(before, none)]
  | c :: rest => (before, some c) :: surroundings (some c) rest

/-- Applies `step` `count` times. -/
def stepTimes (step : Places → Places) : Nat → Places → Places
  | 0, places => places
  | count + 1, places => stepTimes step count (step places)

/-- The places that at most `count` steps lead to. -/
def stepUpTo (step : Places → Places) : Nat → Places → Places
  | 0, places => places
  | count + 1, places =>
    let wider := places.union (step places)
    if wider == places then places else stepUpTo step count wider

namespace Node

/-- The places that the node leads to. In a text of `n` characters more than
`n + 1` repetitions lead nowhere that `n + 1` do not, since all but `n` of them
are empty. -/
def lead (text : List Char) : Node → Places → Places
  | .empty, places => places
  | .char test _, places => false :: List.zipWith (fun here c => here && test c) places text
  | .place test, places =>
    List.zipWith (fun here around => here && test around.1 around.2) places
      (surroundings none text)
  | .seq first second, places => lead text second (lead text first places)
  | .alt first second, places => (lead text first places).union (lead text second places)
  | .repeated least most inner, places =>
    let limit := text.length + 1
    let further := match most with
      | some most => min limit (most - least)
      | none => limit
    stepUpTo (lead text inner) further (stepTimes (lead text inner) (min limit least) places)

/-- Whether the node leads from some place of the text to some other one. -/
def occursIn (node : Node) (text : List Char) : Bool :=
  (lead text node (List.replicate (text.length + 1) true)).any id

end Node

/-- The greatest weight of a pattern. -/
def greatestWeight : Nat := 300000

/-- Whether the pattern that `source` writes occurs in `text`; `none` if it
writes none. -/
def occursIn? (source text : String) : Option Bool := do
  let pattern ← ofText? source
  let result ← node? Flags.start pattern
  if result.1.weight ≤ greatestWeight then some (result.1.occursIn text.toList) else none

end Pattern

end BindingLang
