/-!
  The integers that 64 bits hold.
-/

namespace BindingLang

namespace Integer

/-- The least integer that 64 bits hold, one of them for the sign. -/
def least : Int := -9223372036854775808

/-- The greatest integer that 64 bits hold. -/
def greatest : Int := 9223372036854775807

/-- Whether 64 bits hold the integer. -/
def fits (n : Int) : Bool := least ≤ n && n ≤ greatest

/-- The integer in 64 bits, if they hold it. -/
def ofInt? (n : Int) : Option Int64 := if fits n then some (Int64.ofInt n) else none

end Integer

end BindingLang
