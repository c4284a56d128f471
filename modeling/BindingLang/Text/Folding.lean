import BindingLang.Text.Case
/-!
  Simple case folding: which characters are the same letter.
-/

namespace BindingLang

namespace Text

/-- The number of the letter that a character is, whatever its case. -/
def fold (n : Nat) : Nat := (foldRuns.findSome? (·.image? n)).getD n

/-- The character of the run that folds to `n`, if it has one. -/
def CaseRun.preimage? (run : CaseRun) (n : Nat) : Option Nat :=
  if run.target ≤ n ∧ n - run.target ≤ run.last - run.first ∧ (n - run.target) % run.step = 0 then
    some (run.first + (n - run.target))
  else none

/-- The characters that are the same letter as `c`, which is one of them. -/
def sameLetter (c : Char) : List Char :=
  let letter := fold c.toNat
  (letter :: foldRuns.filterMap (·.preimage? letter)).map Char.ofNat

end Text

end BindingLang
