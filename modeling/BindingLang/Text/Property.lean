import BindingLang.Text.Blank
import BindingLang.Text.Case
import BindingLang.Text.Category
import BindingLang.Text.Script
/-!
  Properties of characters, and the names they are asked for by.

  A name is read without regard to case, spaces, underscores, hyphens and a
  leading `is`.
-/

namespace BindingLang

namespace Text

/-- A property: the characters of some ranges, or all others. -/
structure Property where
  ranges : List (List Nat)
  complement : Bool

namespace Property

def holds (p : Property) (c : Char) : Bool :=
  (p.ranges.any fun ranges => inRanges ranges c.toNat) != p.complement

/-- A name as it is compared. -/
def normalize (name : String) : String :=
  let cs := name.toList
  let is := (cs.take 2).map Char.toLower = ['i', 's']
  let body := if is then cs.drop 2 else cs
  let kept := body.filter fun c => c != ' ' && c != '_' && c != '-' && c.toNat < 128
  let word := String.ofList (kept.map Char.toLower)
  if is ∧ word = "c" then "isc" else word

open Category

def letters : List (List Nat) :=
  [uppercaseLetter, lowercaseLetter, titlecaseLetter, modifierLetter, otherLetter]

def marks : List (List Nat) := [nonspacingMark, spacingMark, enclosingMark]

def punctuation : List (List Nat) :=
  [connectorPunctuation, dashPunctuation, openPunctuation, closePunctuation, initialPunctuation,
    finalPunctuation, otherPunctuation]

def symbols : List (List Nat) := [mathSymbol, currencySymbol, modifierSymbol, otherSymbol]

def separators : List (List Nat) := [spaceSeparator, lineSeparator, paragraphSeparator]

def numbers : List (List Nat) := [decimalNumber, letterNumber, otherNumber]

/-- The alphabetic characters. -/
def alphabetic : Property := ⟨letters ++ [letterNumber, otherAlphabetic], false⟩

/-- The characters of words. -/
def wordCharacters : Property :=
  ⟨letters ++ [letterNumber, otherAlphabetic] ++ marks ++
    [decimalNumber, connectorPunctuation, [0x200C, 0x200E]], false⟩

def decimalDigits : Property := ⟨[decimalNumber], false⟩

/-- The blank characters. -/
def whiteSpace : Property :=
  ⟨[[9, 14, 32, 33, 0x85, 0x86, 0xA0, 0xA1, 0x1680, 0x1681, 0x2000, 0x200B, 0x2028, 0x202A,
    0x202F, 0x2030, 0x205F, 0x2060, 0x3000, 0x3001]], false⟩

/-- The properties that are no categories, with their names. -/
def binaries : List (List String × Property) := [
  (["alphabetic", "alpha"], alphabetic),
  (["uppercase", "upper"], ⟨[uppercaseLetter, otherUppercase], false⟩),
  (["lowercase", "lower"], ⟨[lowercaseLetter, otherLowercase], false⟩),
  (["whitespace", "wspace", "space"], whiteSpace),
  (["cased"], ⟨[Text.cased], false⟩),
  (["caseignorable", "ci"], ⟨[caseIgnorable], false⟩),
  (["hexdigit", "hex"],
    ⟨[[48, 58, 65, 71, 97, 103, 65296, 65306, 65313, 65319, 65345, 65351]], false⟩),
  (["asciihexdigit", "ahex"], ⟨[[48, 58, 65, 71, 97, 103]], false⟩)]

/-- The general categories and their unions, with their names. -/
def categories : List (List String × Property) := [
  (["any"], ⟨[], true⟩),
  (["ascii"], ⟨[[0, 128]], false⟩),
  (["assigned"],
    ⟨letters ++ marks ++ numbers ++ punctuation ++ symbols ++ separators ++
      [controlCharacter, formatCharacter, privateUse], false⟩),
  (["unassigned", "cn"],
    ⟨letters ++ marks ++ numbers ++ punctuation ++ symbols ++ separators ++
      [controlCharacter, formatCharacter, privateUse], true⟩),
  (["other", "c"],
    ⟨letters ++ marks ++ numbers ++ punctuation ++ symbols ++ separators, true⟩),
  (["control", "cc", "cntrl"], ⟨[controlCharacter], false⟩),
  (["format", "cf"], ⟨[formatCharacter], false⟩),
  (["privateuse", "co"], ⟨[privateUse], false⟩),
  (["letter", "l"], ⟨letters, false⟩),
  (["casedletter", "lc"], ⟨[uppercaseLetter, lowercaseLetter, titlecaseLetter], false⟩),
  (["uppercaseletter", "lu"], ⟨[uppercaseLetter], false⟩),
  (["lowercaseletter", "ll"], ⟨[lowercaseLetter], false⟩),
  (["titlecaseletter", "lt"], ⟨[titlecaseLetter], false⟩),
  (["modifierletter", "lm"], ⟨[modifierLetter], false⟩),
  (["otherletter", "lo"], ⟨[otherLetter], false⟩),
  (["mark", "m", "combiningmark"], ⟨marks, false⟩),
  (["nonspacingmark", "mn"], ⟨[nonspacingMark], false⟩),
  (["spacingmark", "mc"], ⟨[spacingMark], false⟩),
  (["enclosingmark", "me"], ⟨[enclosingMark], false⟩),
  (["number", "n"], ⟨numbers, false⟩),
  (["decimalnumber", "nd", "digit"], ⟨[decimalNumber], false⟩),
  (["letternumber", "nl"], ⟨[letterNumber], false⟩),
  (["othernumber", "no"], ⟨[otherNumber], false⟩),
  (["punctuation", "p", "punct"], ⟨punctuation, false⟩),
  (["connectorpunctuation", "pc"], ⟨[connectorPunctuation], false⟩),
  (["dashpunctuation", "pd"], ⟨[dashPunctuation], false⟩),
  (["openpunctuation", "ps"], ⟨[openPunctuation], false⟩),
  (["closepunctuation", "pe"], ⟨[closePunctuation], false⟩),
  (["initialpunctuation", "pi"], ⟨[initialPunctuation], false⟩),
  (["finalpunctuation", "pf"], ⟨[finalPunctuation], false⟩),
  (["otherpunctuation", "po"], ⟨[otherPunctuation], false⟩),
  (["symbol", "s"], ⟨symbols, false⟩),
  (["mathsymbol", "sm"], ⟨[mathSymbol], false⟩),
  (["currencysymbol", "sc"], ⟨[currencySymbol], false⟩),
  (["modifiersymbol", "sk"], ⟨[modifierSymbol], false⟩),
  (["othersymbol", "so"], ⟨[otherSymbol], false⟩),
  (["separator", "z"], ⟨separators, false⟩),
  (["spaceseparator", "zs"], ⟨[spaceSeparator], false⟩),
  (["lineseparator", "zl"], ⟨[lineSeparator], false⟩),
  (["paragraphseparator", "zp"], ⟨[paragraphSeparator], false⟩)]

/-- The entry that has `name` among its names. -/
def find? (table : List (List String × Property)) (name : String) : Option Property :=
  (table.find? fun entry => entry.1.contains name).map Prod.snd

/-- The script of a name. -/
def script? (name : String) : Option Property :=
  (scripts.find? fun entry => entry.1.contains name).map fun entry => ⟨[entry.2], false⟩

/-- The property of a name alone: a category for the few names that could be
either, else a property, a category or a script, in this order. -/
def ofName? (name : String) : Option Property :=
  let name := normalize name
  let binary := if name ∈ ["cf", "sc", "lc"] then none else find? binaries name
  (binary.or (find? categories name)).or (script? name)

/-- The property of the characters for which a property has a value. -/
def ofValue? (property value : String) : Option Property :=
  let property := normalize property
  let value := normalize value
  if property ∈ ["gc", "generalcategory"] then find? categories value
  else if property ∈ ["sc", "script", "scx", "scriptextensions"] then script? value
  else none

end Property

end Text

end BindingLang
