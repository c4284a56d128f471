/-!
  Sets of characters, as the boundaries of their ranges.

  The list `[a, b, c, d]` stands for the characters from `a` up to but not
  including `b`, and from `c` up to but not including `d`. Where the number of
  boundaries is odd, the last range has no end.
-/

namespace BindingLang

namespace Text

/-- Whether the character of number `n` lies in one of the ranges. -/
def inRanges : List Nat → Nat → Bool
  | [], _ => false
  | [first], n => first ≤ n
  | first :: stop :: rest, n => if n < first then false else n < stop || inRanges rest n

end Text

end BindingLang
