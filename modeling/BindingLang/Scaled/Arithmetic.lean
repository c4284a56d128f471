import BindingLang.Scaled.Basic
/-!
  Sums, differences, products and remainders of scaled decimals.

  Results are exact where they fit, and otherwise lose digits at the end, a
  half going to the even digit. An operation that has no result of this form
  answers `none`.
-/

namespace BindingLang

namespace Scaled

/-- `m / 10^places` with as many places as fit, looking from `t` places down. -/
def fitFrom (negative : Bool) (m places : Nat) : Nat → Option Scaled
  | 0 =>
    let whole := Binary64.roundHalfEven m (tenTo places)
    if whole < bound then some ⟨negative, whole, 0⟩ else none
  | t + 1 =>
    let rounded := Binary64.roundHalfEven m (tenTo (places - (t + 1)))
    if rounded < bound then some ⟨negative, rounded, t + 1⟩ else fitFrom negative m places t

/-- `m / 10^places` with as many places as fit. -/
def fit (negative : Bool) (m places : Nat) : Option Scaled :=
  fitFrom negative m places (min places mostPlaces)

/-- The coefficient over `10^scale`, for a scale that is no smaller. -/
def aligned (a : Scaled) (scale : Nat) : Nat := a.coefficient * tenTo (scale - a.scale)

/-- The signed coefficient over `10^scale`. -/
def signedAt (a : Scaled) (scale : Nat) : Int :=
  if a.negative then -(a.aligned scale : Int) else a.aligned scale

def add (a b : Scaled) : Option Scaled :=
  if a.coefficient = 0 then some b
  else if b.coefficient = 0 then some a
  else
    let scale := max a.scale b.scale
    let sum := a.signedAt scale + b.signedAt scale
    fit (decide (sum < 0)) sum.natAbs scale

def negate (a : Scaled) : Scaled := { a with negative := !a.negative }

def subtract (a b : Scaled) : Option Scaled := a.add b.negate

def multiply (a b : Scaled) : Option Scaled :=
  if a.coefficient = 0 ∨ b.coefficient = 0 then some ⟨false, 0, 0⟩
  else fit (a.negative != b.negative) (a.coefficient * b.coefficient) (a.scale + b.scale)

/-- The remainder of the division that truncates the quotient; it has the sign
of `a`. -/
def remainder (a b : Scaled) : Option Scaled :=
  if b.coefficient = 0 then none
  else
    let scale := max a.scale b.scale
    let m := a.aligned scale
    let n := b.aligned scale
    if m = 0 ∨ m = n then some ⟨false, 0, 0⟩
    else if m < n then some a
    else some ⟨a.negative, m % n, scale⟩

end Scaled

end BindingLang
