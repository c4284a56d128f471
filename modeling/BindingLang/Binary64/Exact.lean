import BindingLang.Power
/-!
  Binary64 numbers, exactly.

  A finite `Float` is a sign, a whole significand and a power of two. `finite?`
  reads these off its bits, and `ofRatio` goes the other way: it rounds any
  fraction to the nearest `Float`, a tie to the even significand, and beyond
  the greatest finite number to infinity. Everything about numbers that has to
  be right to the last bit (reading and writing numerals, remainders, whole
  numbers) is computed on these in whole-number arithmetic.
-/

namespace BindingLang

namespace Binary64

/-- The finite number `(-1)^negative * significand * 2^exponent`. -/
structure Exact where
  negative : Bool
  significand : Nat
  exponent : Int
  deriving DecidableEq, Repr

/-- The bits below the exponent field. -/
def fractionBits : Nat := 52

/-- The least exponent of a significand: the weight of a subnormal's last bit. -/
def leastExponent : Int := -1074

/-- The bits of positive infinity. -/
def infinityBits : Nat := 2047 * twoTo fractionBits

/-- The bit that is set in a negative number. -/
def signBit : Nat := twoTo 63

/-- The exact value of `x`, or `none` if it is infinite or not a number. -/
def finite? (x : Float) : Option Exact :=
  let bits := x.toBits.toNat
  let negative := decide (signBit ≤ bits)
  let field := bits / twoTo fractionBits % 2048
  let fraction := bits % twoTo fractionBits
  if field = 2047 then none
  else if field = 0 then some ⟨negative, fraction, leastExponent⟩
  else some ⟨negative, fraction + twoTo fractionBits, leastExponent + (field - 1 : Nat)⟩

/-- The number whose bits without the sign are `magnitude`. -/
def ofMagnitude (negative : Bool) (magnitude : Nat) : Float :=
  Float.ofBits (UInt64.ofNat (if negative then signBit + magnitude else magnitude))

def infinity (negative : Bool) : Float := ofMagnitude negative infinityBits

def zero (negative : Bool) : Float := ofMagnitude negative 0

/-- The quiet number that is not a number. -/
def nan : Float := Float.ofBits 0x7FF8000000000000

/-- `num / den` to the nearest whole number, a half to the even one. -/
def roundHalfEven (num den : Nat) : Nat :=
  let quotient := num / den
  let twice := 2 * (num % den)
  if den < twice ∨ (twice = den ∧ quotient % 2 = 1) then quotient + 1 else quotient

/-- `significand * 2^exponent` as a fraction of whole numbers. -/
def fraction (significand : Nat) (exponent : Int) : Nat × Nat :=
  (significand * twoTo exponent.toNat, twoTo (-exponent).toNat)

/-- The exponent at which `num / den` has a significand of 53 bits, but never
one below the subnormal numbers'. -/
def scaleOf (num den : Nat) : Int :=
  let estimate : Int := (num.log2 : Int) - (den.log2 : Int) - 53
  let upper := fraction den (estimate + 53)
  max leastExponent (if num * upper.2 < upper.1 then estimate else estimate + 1)

/-- The number nearest to `num / den`, with the given sign.

A significand that rounds up to the next power of two carries into the
exponent field, which is just where it belongs. -/
def ofRatio (negative : Bool) (num den : Nat) : Float :=
  if num = 0 ∨ den = 0 then zero negative
  else
    let scale := scaleOf num den
    let unit := fraction den scale
    let significand := roundHalfEven (num * unit.2) unit.1
    let field := (scale - leastExponent).toNat
    ofMagnitude negative (min infinityBits (field * twoTo fractionBits + significand))

/-- The number with this exact value, rounded where it has none. -/
def Exact.toFloat (x : Exact) : Float :=
  let ratio := fraction x.significand x.exponent
  ofRatio x.negative ratio.1 ratio.2

/-- The integer as the nearest number. -/
def ofInt (n : Int) : Float := Float.ofInt n

end Binary64

end BindingLang
