import BindingLang.Scaled.Basic
/-!
  Division of scaled decimals.

  A quotient is carried out to the digits that fit, up to nine of them in a
  step, and loses the zeros at its end.
-/

namespace BindingLang

namespace Scaled

/-- A division on its way: `quotient / 10^scale`, with `rest` still to be
divided. The scale is below zero while the quotient lacks zeros at its end. -/
structure Division where
  quotient : Nat
  rest : Nat
  scale : Int

/-- The greatest `p ≤ top` for which `quotient * 10^p` fits. -/
def room (quotient : Nat) : Nat → Nat
  | 0 => 0
  | p + 1 => if quotient * tenTo (p + 1) < bound then p + 1 else room quotient p

/-- The most digits that one step of a division adds. -/
def digitsPerStep : Nat := 9

/-- Closes a division at the digits it has, by the size of what is left
against half of the divisor. -/
def Division.round (d : Division) (divisor : Nat) : Nat × Int :=
  let rounded :=
    if divisor < 2 * d.rest ∨ (2 * d.rest = divisor ∧ d.quotient % 2 = 1) then d.quotient + 1
    else d.quotient
  if rounded = bound then (Binary64.roundHalfEven rounded 10, d.scale - 1) else (rounded, d.scale)

/-- Gives back the digit that no longer fits. -/
def Division.shorten (d : Division) : Option (Nat × Int) :=
  if d.scale < 1 then none
  else
    let last := d.quotient % 10
    let q := d.quotient / 10
    let up := 5 < last ∨ (last = 5 ∧ (d.rest ≠ 0 ∨ q % 2 = 1))
    some (if up then q + 1 else q, d.scale - 1)

/-- The state after `count` more digits. -/
def Division.extend (d : Division) (divisor count : Nat) : Division :=
  ⟨d.quotient * tenTo count + d.rest * tenTo count / divisor, d.rest * tenTo count % divisor,
    d.scale + count⟩

/-- Carries a division on until nothing is left or no digit fits any more,
in at most `fuel` steps. The flag tells whether it ever had a rest. -/
def Division.run (divisor : Nat) : Nat → Division → Bool → Option (Nat × Int × Bool)
  | 0, _, _ => none
  | fuel + 1, d, inexact =>
    let step (count : Nat) (inexact : Bool) : Option (Nat × Int × Bool) :=
      if bound ≤ d.quotient * tenTo count then none
      else
        let next := d.extend divisor count
        if bound ≤ next.quotient then next.shorten.map fun r => (r.1, r.2, inexact)
        else Division.run divisor fuel next inexact
    if d.rest = 0 then
      if 0 ≤ d.scale then some (d.quotient, d.scale, inexact)
      else step (min digitsPerStep (-d.scale).toNat) inexact
    else if d.scale = mostPlaces then
      let closed := d.round divisor
      some (closed.1, closed.2, true)
    else
      let count := room d.quotient (min digitsPerStep ((mostPlaces : Int) - d.scale).toNat)
      if count < digitsPerStep ∧ count + d.scale < 0 then none
      else if count = 0 then
        let closed := d.round divisor
        some (closed.1, closed.2, true)
      else step count true

/-- Steps of a division: from at least `-28` places to at most 28, with one
step of slack at each end. -/
def divisionSteps : Nat := 2 * mostPlaces + 4

/-- Takes `count` zeros off the end of the places, if there are as many. -/
def stripBy (count : Nat) (q scale : Nat) : Nat × Nat :=
  if count ≤ scale ∧ q % tenTo count = 0 then (q / tenTo count, scale - count) else (q, scale)

/-- Takes zeros off eight at a time, as long as the low word is zero. -/
def stripEights : Nat → Nat → Nat → Nat × Nat
  | 0, q, scale => (q, scale)
  | fuel + 1, q, scale =>
    if q % twoTo 32 = 0 ∧ 8 ≤ scale ∧ q % tenTo 8 = 0 then stripEights fuel (q / tenTo 8) (scale - 8)
    else (q, scale)

/-- Takes zeros off the end of the places of a quotient. -/
def strip (q scale : Nat) : Nat × Nat :=
  let eights := stripEights scale q scale
  let four := stripBy 4 eights.1 eights.2
  let two := stripBy 2 four.1 four.2
  stripBy 1 two.1 two.2

def divide (a b : Scaled) : Option Scaled :=
  if b.coefficient = 0 then none
  else if a.coefficient = 0 then some ⟨false, 0, 0⟩
  else
    let start : Division :=
      ⟨a.coefficient / b.coefficient, a.coefficient % b.coefficient, (a.scale : Int) - b.scale⟩
    (Division.run b.coefficient divisionSteps start false).map fun result =>
      let scale := result.2.1.toNat
      let final := if result.2.2 then strip result.1 scale else (result.1, scale)
      ⟨a.negative != b.negative, final.1, final.2⟩

end Scaled

end BindingLang
