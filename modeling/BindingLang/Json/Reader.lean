import BindingLang.Binary64.Numeral
import BindingLang.Integer
import BindingLang.Json.Basic
import BindingLang.Text.Digit
/-!
  Reading JSON text.

  The text holds one document and nothing after it. Strings hold no control
  characters, and their escapes name characters: halves of surrogate pairs come
  in twos. A number is an integer if it is written as one and 64 bits hold it;
  minus zero and all others are floats, which must be finite. Documents nest at
  most 127 deep. Of the entries of an object with one key the last one stands.
-/

namespace BindingLang

namespace Json

namespace Read

/-- The rest without leading blanks. -/
def skipBlanks (cs : List Char) : List Char :=
  cs.dropWhile fun c => c == ' ' || c == '\n' || c == '\t' || c == '\r'

/-- The rest after `word`, if the text begins with it. -/
def after? (word : String) (cs : List Char) : Option (List Char) :=
  let chars := word.toList
  if chars.isPrefixOf cs then some (cs.drop chars.length) else none

/-! ## Strings -/

/-- The number of four hexadecimal digits. -/
def unit? : List Char → Option (Nat × List Char)
  | a :: b :: c :: d :: rest => do
    let a ← Text.hexDigit? a
    let b ← Text.hexDigit? b
    let c ← Text.hexDigit? c
    let d ← Text.hexDigit? d
    some (((a * 16 + b) * 16 + c) * 16 + d, rest)
  | _ => none

/-- The character of a `\u` escape, after the `u`: one unit, or a pair of
surrogates. -/
def unicodeEscape? (cs : List Char) : Option (Char × List Char) := do
  let (first, rest) ← unit? cs
  if first < 0xD800 ∨ 0xE000 ≤ first then some (Char.ofNat first, rest)
  else if 0xDC00 ≤ first then none
  else
    let rest ← after? "\\u" rest
    let (second, rest) ← unit? rest
    if 0xDC00 ≤ second ∧ second < 0xE000 then
      some (Char.ofNat (0x10000 + (first - 0xD800) * 0x400 + (second - 0xDC00)), rest)
    else none

/-- The character that a letter stands for after a backslash. -/
def shortEscape? (c : Char) : Option Char :=
  if c = '"' ∨ c = '\\' ∨ c = '/' then some c
  else if c = 'b' then some (Char.ofNat 8)
  else if c = 'f' then some (Char.ofNat 12)
  else if c = 'n' then some '\n'
  else if c = 'r' then some '\r'
  else if c = 't' then some '\t'
  else none

/-- The characters of a string up to its closing quote, in at most `fuel` of
them. -/
def chars? : Nat → List Char → Option (List Char × List Char)
  | 0, _ => none
  | _ + 1, [] => none
  | fuel + 1, c :: rest =>
    if c = '"' then some ([], rest)
    else if c = '\\' then
      match rest with
      | [] => none
      | e :: rest =>
        let read := if e = 'u' then unicodeEscape? rest else (shortEscape? e).map (·, rest)
        read.bind fun r => (chars? fuel r.2).map fun s => (r.1 :: s.1, s.2)
    else if c.toNat < 32 then none
    else (chars? fuel rest).map fun s => (c :: s.1, s.2)

/-- The string after its opening quote. -/
def string? (cs : List Char) : Option (String × List Char) :=
  (chars? (cs.length + 1) cs).map fun s => (String.ofList s.1, s.2)

/-! ## Numbers -/

/-- The digits after a point, if one stands: none follow a missing point, and
at least one a point. -/
def places? : List Char → Option (Option (List Char) × List Char)
  | '.' :: rest =>
    let run := Binary64.splitDigits rest
    if run.1.isEmpty then none else some (some run.1, run.2)
  | rest => some (none, rest)

/-- The exponent, if one is written. -/
def exponent? : List Char → Option (Option Int × List Char)
  | e :: rest =>
    if e = 'e' ∨ e = 'E' then
      let signed := Binary64.splitSign rest
      let run := Binary64.splitDigits signed.2
      if run.1.isEmpty then none
      else
        let n : Int := Binary64.digitsValue run.1
        some (some (if signed.1 then -n else n), run.2)
    else some (none, e :: rest)
  | [] => some (none, [])

/-- The float of a number, if it is finite. -/
def finite? (x : Float) : Option Json := (Binary64.finite? x).map fun _ => .float x

/-- The document of a number by its sign, digits, places and exponent. -/
def numberOf (negative : Bool) (whole : List Char) (places : Option (List Char))
    (exponent : Option Int) : Option Json :=
  let digits := Binary64.digitsValue whole
  match places, exponent with
  | none, none =>
    let n : Int := if negative then -(digits : Int) else digits
    if negative ∧ digits = 0 then some (.float (Binary64.zero true))
    else
      match Integer.ofInt? n with
      | some n => some (.integer n)
      | none => finite? (Binary64.ofDecimal negative digits 0)
  | places, exponent =>
    let fraction := places.getD []
    finite? (Binary64.ofDecimal negative (Binary64.digitsValue (whole ++ fraction))
      (exponent.getD 0 - fraction.length))

/-- A number. Only a single zero may lead. -/
def number? (cs : List Char) : Option (Json × List Char) := do
  let (negative, cs) := match cs with
    | '-' :: rest => (true, rest)
    | rest => (false, rest)
  let run := Binary64.splitDigits cs
  if run.1.isEmpty ∨ (run.1.head? = some '0' ∧ run.1.length ≠ 1) then none
  else
    let (places, rest) ← places? run.2
    let (exponent, rest) ← exponent? rest
    let number ← numberOf negative run.1 places exponent
    some (number, rest)

/-! ## Documents -/

mutual

/-- A document that nests less than `depth` deep. -/
def document? : Nat → Nat → List Char → Option (Json × List Char)
  | 0, _, _ => none
  | fuel + 1, depth, cs =>
    match skipBlanks cs with
    | [] => none
    | c :: rest =>
      if c = 'n' then (after? "ull" rest).map (Json.null, ·)
      else if c = 't' then (after? "rue" rest).map (Json.boolean true, ·)
      else if c = 'f' then (after? "alse" rest).map (Json.boolean false, ·)
      else if c = '"' then (string? rest).map fun s => (Json.string s.1, s.2)
      else if c = '[' then
        if depth ≤ 1 then none
        else
          match skipBlanks rest with
          | ']' :: rest => some (.array [], rest)
          | rest => (items? fuel (depth - 1) rest).map fun r => (Json.array r.1, r.2)
      else if c = '\x7b' then
        if depth ≤ 1 then none
        else
          match skipBlanks rest with
          | '\x7d' :: rest => some (.object [], rest)
          | rest => (entries? fuel (depth - 1) rest).map fun r => (ofFields r.1, r.2)
      else number? (c :: rest)
termination_by structural fuel => fuel

/-- The items of an array up to its closing bracket, at least one. -/
def items? : Nat → Nat → List Char → Option (List Json × List Char)
  | 0, _, _ => none
  | fuel + 1, depth, cs => do
    let (item, rest) ← document? fuel depth cs
    match skipBlanks rest with
    | ',' :: rest =>
      let (items, rest) ← items? fuel depth rest
      some (item :: items, rest)
    | ']' :: rest => some ([item], rest)
    | _ => none
termination_by structural fuel => fuel

/-- The entries of an object up to its closing brace, at least one. -/
def entries? : Nat → Nat → List Char → Option (List (String × Json) × List Char)
  | 0, _, _ => none
  | fuel + 1, depth, cs =>
    match skipBlanks cs with
    | '"' :: rest => do
      let (key, rest) ← string? rest
      match skipBlanks rest with
      | ':' :: rest =>
        let (value, rest) ← document? fuel depth rest
        match skipBlanks rest with
        | ',' :: rest =>
          let (entries, rest) ← entries? fuel depth rest
          some ((key, value) :: entries, rest)
        | '\x7d' :: rest => some ([(key, value)], rest)
        | _ => none
      | _ => none
    | _ => none
termination_by structural fuel => fuel

end

end Read

/-- One more than the depth that documents nest to. -/
def depthLimit : Nat := 128

/-- The document that a text holds. -/
def ofText? (text : String) : Option Json :=
  let cs := text.toList
  match Read.document? (2 * cs.length + 2) depthLimit cs with
  | some (document, rest) => if (Read.skipBlanks rest).isEmpty then some document else none
  | none => none

end Json

end BindingLang
