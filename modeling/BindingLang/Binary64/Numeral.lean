import BindingLang.Binary64.Shortest
/-!
  Decimal numerals: text that stands for a binary64 number.

  A numeral is an optional sign, digits with an optional point before, between
  or after them, and an optional exponent:
  `[+-]? (digits [. digits*] | . digits) ([eE] [+-]? digits)?`.
  Its value is a fraction of whole numbers, rounded once.
-/

namespace BindingLang

namespace Binary64

/-- The value of a decimal digit. -/
def digitValue (c : Char) : Nat := c.toNat - '0'.toNat

/-- The value of a run of digits. -/
def digitsValue (ds : List Char) : Nat := ds.foldl (fun n c => 10 * n + digitValue c) 0

/-- Numbers from `10^greatestOrder` on round to infinity. -/
def greatestOrder : Int := 310

/-- Numbers below `10^leastOrder` round to zero. -/
def leastOrder : Int := -330

/-- `significand * 10^exponent` as the nearest number. Exponents far out of
range are answered without the power of ten. -/
def ofDecimal (negative : Bool) (significand : Nat) (exponent : Int) : Float :=
  let order := exponent + digitCount significand
  if significand = 0 ∨ order < leastOrder then zero negative
  else if greatestOrder < order then infinity negative
  else ofRatio negative (significand * tenTo exponent.toNat) (tenTo (-exponent).toNat)

/-- The optional sign at the front: whether it is a minus, and the rest. -/
def splitSign : List Char → Bool × List Char
  | '-' :: rest => (true, rest)
  | '+' :: rest => (false, rest)
  | rest => (false, rest)

/-- The leading digits, and the rest. -/
def splitDigits (cs : List Char) : List Char × List Char := cs.span Char.isDigit

/-- The exponent that the whole of `cs` writes: none written is zero. -/
def readExponent? : List Char → Option Int
  | [] => some 0
  | e :: rest =>
    if e = 'e' ∨ e = 'E' then
      let signed := splitSign rest
      let run := splitDigits signed.2
      if run.1.isEmpty ∨ !run.2.isEmpty then none
      else
        let n : Int := digitsValue run.1
        some (if signed.1 then -n else n)
    else none

/-- The number that the whole of `cs` writes, or `none` if it is no numeral. -/
def readNumeral? (cs : List Char) : Option Float :=
  let signed := splitSign cs
  let whole := splitDigits signed.2
  let places : List Char × List Char :=
    match whole.2 with
    | '.' :: rest => splitDigits rest
    | rest => ([], rest)
  if whole.1.isEmpty ∧ places.1.isEmpty then none
  else
    (readExponent? places.2).map fun exponent =>
      ofDecimal signed.1 (digitsValue (whole.1 ++ places.1)) (exponent - places.1.length)

/-- The number in positional notation with the fewest digits that read back;
words for the infinities and for what is not a number. -/
def toText (x : Float) : String :=
  match finite? x with
  | some e =>
    String.ofList ((if e.negative then ['-'] else []) ++ e.shortest.positional)
  | none => if x.isNaN then "NaN" else if x > 0.0 then "Infinity" else "-Infinity"

end Binary64

end BindingLang
