import BindingLang.Text.CaseTable
import BindingLang.Text.Ranges
/-!
  Upper and lower case of text, by the full mappings: one character may become
  several, and the lower case of a sigma depends on whether it ends a word.
-/

namespace BindingLang

namespace Text

/-- The image of `n`, if the run holds it. -/
def CaseRun.image? (run : CaseRun) (n : Nat) : Option Nat :=
  if run.first ≤ n ∧ n ≤ run.last ∧ (n - run.first) % run.step = 0 then
    some (run.target + (n - run.first))
  else none

/-- The image of a character under a mapping given by its sequences and runs. -/
def mapCase (sequences : List (Nat × List Nat)) (runs : List CaseRun) (c : Char) : List Char :=
  match sequences.find? (fun entry => entry.1 = c.toNat) with
  | some entry => entry.2.map Char.ofNat
  | none =>
    match runs.findSome? (·.image? c.toNat) with
    | some n => [Char.ofNat n]
    | none => [c]

def upperChar (c : Char) : List Char := mapCase upperSequences upperRuns c

def lowerChar (c : Char) : List Char := mapCase lowerSequences lowerRuns c

def isCased (c : Char) : Bool := inRanges cased c.toNat

def isCaseIgnorable (c : Char) : Bool := inRanges caseIgnorable c.toNat

def capitalSigma : Char := Char.ofNat 0x3A3

def smallSigma : Char := Char.ofNat 0x3C3

def finalSigma : Char := Char.ofNat 0x3C2

/-- Whether the first character that case does not leave out of account is
cased. -/
def casedFirst (cs : List Char) : Bool := (cs.dropWhile isCaseIgnorable).head?.any isCased

/-- The lower case of a text; `inWord` tells whether the nearest character
before it that case does not leave out of account is cased. -/
def lowerFrom : Bool → List Char → List Char
  | _, [] => []
  | inWord, c :: rest =>
    let image :=
      if c = capitalSigma then [if inWord && !casedFirst rest then finalSigma else smallSigma]
      else lowerChar c
    image ++ lowerFrom (if isCaseIgnorable c then inWord else isCased c) rest

/-- The text in upper case. -/
def toUpper (s : String) : String := String.ofList (s.toList.flatMap upperChar)

/-- The text in lower case. -/
def toLower (s : String) : String := String.ofList (lowerFrom false s.toList)

end Text

end BindingLang
