/-!
  Searching text for text.

  A place of `needle` in a text is a number of characters before an occurrence
  of it. `find?` answers the least place; `parts` cuts the text at its leftmost
  occurrences that do not overlap.
-/

namespace BindingLang

namespace Text

/-- Whether the text begins with `needle`. -/
def startsWith (text needle : List Char) : Bool := needle.isPrefixOf text

/-- Whether the text ends with `needle`. -/
def endsWith (text needle : List Char) : Bool := needle.isSuffixOf text

/-- The least number of characters before an occurrence of `needle`. -/
def find? (needle : List Char) : List Char → Option Nat
  | [] => if needle.isEmpty then some 0 else none
  | c :: rest =>
    if startsWith (c :: rest) needle then some 0 else (find? needle rest).map (· + 1)

/-- Whether `needle` occurs in the text. -/
def contains (text needle : List Char) : Bool := (find? needle text).isSome

/-- Puts a character in front of the first part. -/
def consFirst (c : Char) : List (List Char) → List (List Char)
  | [] => [[c]]
  | part :: parts => (c :: part) :: parts

/-- The parts of the text between the occurrences of a separator that is not
empty, after passing over the first `skip` characters, which belong to an
occurrence already found. -/
def partsFrom (separator : List Char) : Nat → List Char → List (List Char)
  | _, [] => [[]]
  | skip + 1, _ :: rest => partsFrom separator skip rest
  | 0, c :: rest =>
    if startsWith (c :: rest) separator then
      [] :: partsFrom separator (separator.length - 1) rest
    else consFirst c (partsFrom separator 0 rest)

/-- The parts of the text between the occurrences of the separator; the empty
separator stands between any two characters. -/
def parts (separator text : List Char) : List (List Char) :=
  if separator.isEmpty then text.map fun c => [c] else partsFrom separator 0 text

end Text

end BindingLang
