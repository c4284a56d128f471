import BindingLang.Binary64.Exact
/-!
  Scaled decimals: the numbers that values of mixed kinds meet as.

  A scaled decimal is a coefficient below `2^96` over a power of ten of at most
  28.
-/

namespace BindingLang

/-- The number `(-1)^negative * coefficient / 10^scale`. -/
structure Scaled where
  negative : Bool
  coefficient : Nat
  scale : Nat
  deriving DecidableEq, Repr

namespace Scaled

/-- Coefficients are below this bound. -/
def bound : Nat := twoTo 96

/-- The most decimal places. -/
def mostPlaces : Nat := 28

end Scaled

end BindingLang
