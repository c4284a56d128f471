import BindingLang.Binary64.Exact
/-!
  Whole numbers among the binary64 numbers: which floats are whole, the whole
  part of one, rounding to a whole number, and the remainder of a division.
-/

namespace BindingLang

namespace Binary64

/-- Whether the exact value has no fractional part. -/
def Exact.isWhole (x : Exact) : Bool :=
  let ratio := fraction x.significand x.exponent
  ratio.1 % ratio.2 == 0

/-- The magnitude with its fractional part dropped. -/
def Exact.wholePart (x : Exact) : Nat :=
  let ratio := fraction x.significand x.exponent
  ratio.1 / ratio.2

/-- Whether `x` is finite and has no fractional part. -/
def isWhole (x : Float) : Bool := (finite? x).any Exact.isWhole

/-- The greatest position that a 64-bit machine can count to. -/
def greatestPosition : Nat := twoTo 64 - 1

/-- The position that `x` names: its whole part, kept between zero and the
greatest position; zero for what is not a number. -/
def toPosition (x : Float) : Nat :=
  match finite? x with
  | some e => if e.negative then 0 else min greatestPosition e.wholePart
  | none => if x > 0.0 then greatestPosition else 0

/-- The nearest whole number, a half away from zero; infinities and what is
not a number stay as they are. -/
def roundHalfAway (x : Float) : Float :=
  match finite? x with
  | some e =>
    let ratio := fraction e.significand e.exponent
    ofRatio e.negative ((2 * ratio.1 + ratio.2) / (2 * ratio.2)) 1
  | none => x

/-- The remainder of the division of `x` by `y` that truncates the quotient:
exact, and of the sign of `x`. -/
def remainder (x y : Float) : Float :=
  match finite? x, finite? y with
  | some a, some b =>
    if b.significand = 0 then nan
    else
      let scale := min a.exponent b.exponent
      let m := a.significand * twoTo (a.exponent - scale).toNat
      let n := b.significand * twoTo (b.exponent - scale).toNat
      Exact.toFloat ⟨a.negative, m % n, scale⟩
  | some _, none => if y.isNaN then nan else x
  | none, _ => nan

end Binary64

end BindingLang
