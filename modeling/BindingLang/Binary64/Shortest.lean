import BindingLang.Binary64.Exact
/-!
  The shortest decimal of a binary64 number.

  Every finite number stands for an interval of reals that round to it. Of the
  decimals in that interval `shortest` takes one with the fewest digits, and
  among those the nearest to the number, the greater one of two that are
  equally near. Seventeen digits always reach into the interval.
-/

namespace BindingLang

namespace Binary64

/-- The decimal `significand * 10^exponent`. -/
structure Decimal where
  significand : Nat
  exponent : Int
  deriving DecidableEq, Repr

/-- The number of decimal digits of `n`, one for zero. -/
def digitCount (n : Nat) : Nat := (Nat.toDigits 10 n).length

/-- The exponent of the power of ten just above `num / den`: for a positive
fraction the `e` with `10^(e-1) ≤ num / den < 10^e`. -/
def decimalOrder (num den : Nat) : Int :=
  if den ≤ num then digitCount (num / den) else 1 - (digitCount (den / num) : Int)

/-- The same decimal with no zero at the end of its digits, in at most `fuel`
steps of one digit. -/
def Decimal.trimmed : Nat → Decimal → Decimal
  | 0, d => d
  | fuel + 1, d =>
    if d.significand % 10 = 0 ∧ d.significand ≠ 0 then
      Decimal.trimmed fuel ⟨d.significand / 10, d.exponent + 1⟩
    else d

/-- The reals that round to a number, in quarters of its last bit: the lower
end, the number and the upper end, with whether the ends belong to it. -/
structure Interval where
  low : Nat
  middle : Nat
  high : Nat
  closed : Bool

/-- The interval of a number: half a unit to each side, but only a quarter
below a power of two, where the next number down is nearer. -/
def Exact.interval (x : Exact) : Interval :=
  let m := x.significand
  let narrow := m = twoTo fractionBits ∧ leastExponent < x.exponent
  ⟨if narrow then 4 * m - 1 else 4 * m - 2, 4 * m, 4 * m + 2, m % 2 = 0⟩

/-- Whether `num / den` lies in the interval. -/
def Interval.holds (i : Interval) (num den : Nat) : Bool :=
  if i.closed then i.low * den ≤ num && num ≤ i.high * den
  else i.low * den < num && num < i.high * den

/-- A decimal of the interval with `count` digits, the nearest to the middle:
one of the two neighbours of the middle among the multiples of a power of ten. -/
def neighbour? (x : Exact) (order : Int) (count : Nat) : Option Decimal :=
  let interval := x.interval
  let exponent := order - count
  -- A quarter of the last bit, and a multiple of the grid, over one denominator.
  let quarter := fraction 1 (x.exponent - 2)
  let ten : Nat × Nat := (tenTo exponent.toNat, tenTo (-exponent).toNat)
  let step := ten.1 * quarter.2
  let den := ten.2 * quarter.1
  let down := interval.middle * den / step
  let up := down + 1
  let downHolds := interval.holds (down * step) den
  let upHolds := interval.holds (up * step) den
  let below := interval.middle * den - down * step
  let above := up * step - interval.middle * den
  if downHolds && (!upHolds || below < above) then some ⟨down, exponent⟩
  else if upHolds then some ⟨up, exponent⟩
  else none

/-- The first decimal found with `count`, `count + 1`, ... digits, in at most
`fuel` tries. -/
def firstNeighbour (x : Exact) (order : Int) : Nat → Nat → Decimal
  | 0, _ => ⟨x.significand, x.exponent⟩
  | fuel + 1, count =>
    match neighbour? x order count with
    | some d => d
    | none => firstNeighbour x order fuel (count + 1)

/-- The digits that every number needs at most. -/
def mostDigits : Nat := 17

/-- The shortest decimal that reads back as the magnitude of `x`. -/
def Exact.shortest (x : Exact) : Decimal :=
  if x.significand = 0 then ⟨0, 0⟩
  else
    let ratio := fraction x.significand x.exponent
    let order := decimalOrder ratio.1 ratio.2
    Decimal.trimmed (mostDigits + 1) (firstNeighbour x order mostDigits 1)

/-- The digits of `n`. -/
def digits (n : Nat) : List Char := Nat.toDigits 10 n

/-- The decimal in positional notation: all digits before the point are
written, and the point only where a digit follows it. -/
def Decimal.positional (d : Decimal) : List Char :=
  let ds := digits d.significand
  if 0 ≤ d.exponent then
    if d.significand = 0 then ds else ds ++ List.replicate d.exponent.toNat '0'
  else
    let places := (-d.exponent).toNat
    if places < ds.length then
      ds.take (ds.length - places) ++ '.' :: ds.drop (ds.length - places)
    else '0' :: '.' :: List.replicate (places - ds.length) '0' ++ ds

end Binary64

end BindingLang
