import BindingLang.Binary64.Whole
import BindingLang.Scaled.Basic
/-!
  Scaled decimals of binary64 numbers, and back.

  `ofFloat?` trades powers of two for powers of ten step by step, and then
  drops what goes beyond the digits that a binary64 number determines.
-/

namespace BindingLang

namespace Scaled

/-- Trades `fives` halvings for decimal places: `m * 2^-fives` becomes
`m' * 10^-places`, cutting off what does not fit. A halving that comes out even
costs no place. -/
def halve : Nat → Nat → Nat → Nat × Nat
  | 0, m, places => (m, places)
  | fives + 1, m, places =>
    if m % 2 = 0 then halve fives (m / 2) (places - 1)
    else if 5 * m < bound then halve fives (5 * m) places
    else halve fives (m / 2) (places - 1)

/-- Trades `fives` doublings for factors of ten, while `tens` of them are
still to come: `none` once too many would be needed. -/
def double : Nat → Nat → Nat → Option (Nat × Nat)
  | 0, m, tens => some (m, tens)
  | fives + 1, m, tens =>
    if m < twoTo 95 then double fives (2 * m) (tens - 1)
    else if fives + 1 < 2 * tens then none
    else double fives (m / 5) tens

/-- Multiplies by ten `tens` times, as long as the coefficient fits. -/
def raise : Nat → Nat → Option Nat
  | 0, m => some m
  | tens + 1, m => if 10 * m < bound then raise tens (10 * m) else none

/-- Drops the last digit, a digit of five or more rounding up. -/
def dropDigit (m : Nat) : Nat := if 5 ≤ m % 10 then m / 10 + 1 else m / 10

/-- Drops `excess` places, down to `mostPlaces`; a coefficient that vanishes
on the way is zero without places. -/
def dropExcess : Nat → Nat → Nat × Nat
  | 0, m => (m, mostPlaces)
  | excess + 1, m => if m / 10 = 0 then (0, 0) else dropExcess excess (dropDigit m)

/-- Drops places until the coefficient has at most 52 bits. -/
def dropFine : Nat → Nat → Nat × Nat
  | 0, m => (m, 0)
  | places + 1, m => if twoTo 52 ≤ m then dropFine places (dropDigit m) else (m, places + 1)

/-- Drops the zeros at the end of the places. -/
def dropZeros : Nat → Nat → Nat × Nat
  | 0, m => (m, 0)
  | places + 1, m => if m % 10 = 0 then dropZeros places (m / 10) else (m, places + 1)

/-- The decimal of a coefficient with any number of places. -/
def settle (negative : Bool) (m places : Nat) : Scaled :=
  let fitted := if mostPlaces < places then dropExcess (places - mostPlaces) m else (m, places)
  let fine := dropFine fitted.2 fitted.1
  let final := dropZeros fine.2 fine.1
  ⟨negative, final.1, final.2⟩

/-- The decimal that stands for `x` in mixed arithmetic: about the 16 digits
that a binary64 number determines. -/
def ofFloat? (x : Float) : Option Scaled := do
  let e ← Binary64.finite? x
  if e.significand = 0 then some ⟨e.negative, 0, 0⟩
  else if e.exponent ≤ 0 then
    let fives := (-e.exponent).toNat
    let scaled := halve fives e.significand fives
    some (settle e.negative scaled.1 scaled.2)
  else
    let fives := e.exponent.toNat
    let doubled ← double fives e.significand fives
    let m ← raise doubled.2 doubled.1
    some (settle e.negative m 0)

/-! ## Back to numbers -/

/-- Whether the places are all zero. -/
def isWhole (a : Scaled) : Bool := a.coefficient % tenTo a.scale == 0

/-- The number with its places dropped. -/
def truncate (a : Scaled) : Int :=
  let whole := a.coefficient / tenTo a.scale
  if a.negative then -(whole : Int) else whole

/-- `base^n` by repeated squaring: each product is rounded, and their order
decides the last bit. -/
def power (base : Float) : Nat → Nat → Float → Float
  | 0, _, acc => acc
  | fuel + 1, n, acc =>
    if n = 0 then acc
    else power (base * base) fuel (n / 2) (if n % 2 = 1 then acc * base else acc)

def withSign (negative : Bool) (x : Float) : Float := if negative then -x else x

/-- The decimal as a binary64 number: whole part and places are added as
floats, and the sum is rounded to as many places as the decimal has. -/
def toFloat (a : Scaled) : Float :=
  if a.scale = 0 then withSign a.negative (Binary64.ofInt a.coefficient)
  else
    let unit := tenTo a.scale
    let whole := Binary64.ofInt (a.coefficient / unit : Nat)
    let places := Binary64.ofInt (a.coefficient % unit : Nat) / Binary64.ofInt (unit : Nat)
    if places == 0.0 then withSign a.negative whole
    else
      let p := power 10.0 a.scale a.scale 1.0
      withSign a.negative (Binary64.roundHalfAway ((whole + places) * p) / p)

end Scaled

end BindingLang
