import BindingLang.Pattern.Basic
import BindingLang.Pattern.Place
import BindingLang.Text.Digit
/-!
  Reading escapes: what a backslash makes of the characters after it.
-/

namespace BindingLang

namespace Pattern

namespace Read

def isHex (c : Char) : Bool := (Text.hexDigit? c).isSome

/-- The character of a hexadecimal number, if it has one. -/
def hexChar (digits : List Char) : Read Char := do
  let n := digits.foldl (fun n c => 16 * n + (Text.hexDigit? c).getD 0) 0
  if h : n.isValidChar then return Char.ofNatAux n h else failure

/-- Counts are below this number. -/
def countBound : Nat := 4294967296

/-- A whole number below `countBound`, blanks around it allowed; none where no
digit stands. -/
def decimal? : Read (Option Nat) := do
  skipBlanks
  let digits ← collect Char.isDigit
  skipBlanks
  if digits.isEmpty then return none
  let n := digits.foldl (fun n c => 10 * n + (c.toNat - '0'.toNat)) 0
  need (n < countBound)
  return some n

/-- The characters that an unescaped pattern gives a meaning. -/
def metaChars : List Char := "\\.+*?()|[]\x7b\x7d^$#&-~".toList

/-- Whether a backslash before the character leaves it as it is. -/
def isEscapable (c : Char) : Bool :=
  metaChars.contains c || (c.toNat < 128 && !c.isAlphanum && c != '<' && c != '>')

/-- The digits after `\x`, `\u` and `\U`, in braces or as many as the letter
asks for. -/
def hexEscape (width : Nat) : Read Pattern := do
  need (← bumpLoose)
  if (← peek?) = some '\x7b' then
    need (← bumpLoose)
    let digits ← collect isHex
    need ((← peek?) = some '\x7d' && !digits.isEmpty)
    let _ ← bumpLoose
    return .char (← hexChar digits) false
  else
    let digits ← collectWithin isHex width
    need (digits.length = width)
    return .char (← hexChar digits) (width = 2)

/-- Splits a text at the first occurrence of one of two signs. -/
def splitAt (sign : List Char) : List Char → Option (List Char × List Char)
  | [] => none
  | c :: rest =>
    if sign.isPrefixOf (c :: rest) then some ([], (c :: rest).drop sign.length)
    else (splitAt sign rest).map fun r => (c :: r.1, r.2)

/-- The class of a query in braces. -/
def queryOf (negated : Bool) (name : List Char) : CharSet :=
  let valued (r : List Char × List Char) : Query :=
    .valued (String.ofList r.1) (String.ofList r.2)
  match splitAt ['!', '='] name, splitAt [':'] name, splitAt ['='] name with
  | some r, _, _ => .property (valued r) (!negated)
  | none, some r, _ => .property (valued r) negated
  | none, none, some r => .property (valued r) negated
  | none, none, none => .property (.named (String.ofList name)) negated

/-- What stands after `\p` or `\P`. -/
def propertyEscape (negated : Bool) : Read CharSet := do
  need (← bumpLoose)
  match ← peek? with
  | none => failure
  | some c =>
    if c = '\x7b' then
      let _ ← bumpLoose
      let name ← collect (· != '\x7d')
      need ((← peek?) = some '\x7d')
      let _ ← bump
      return queryOf negated name
    else
      need (c != '\\')
      let _ ← bumpLoose
      return .property (.named (String.ofList [c])) negated

/-- Whether the character may stand in the name of a kind of boundary. -/
def isBoundaryChar (c : Char) : Bool := c.isAlpha || c == '-'

/-- What stands after `\b`: a kind of boundary in braces, unless the braces
hold a count. -/
def boundaryEscape : Read Anchor := do
  if (← peek?) ≠ some '\x7b' then return .wordBoundary
  let start ← get
  need (← bumpLoose)
  if !(((← peek?).map isBoundaryChar).getD false) then
    set start
    return .wordBoundary
  let name := String.ofList (← collect isBoundaryChar)
  need ((← peek?) = some '\x7d')
  let _ ← bump
  if name = "start" then return .wordStart
  else if name = "end" then return .wordEnd
  else if name = "start-half" then return .wordStartHalf
  else if name = "end-half" then return .wordEndHalf
  else failure

/-- The shorthand of a letter, and whether it is negated. -/
def shorthand? (c : Char) : Option (Shorthand × Bool) :=
  if c = 'd' then some (.digit, false)
  else if c = 's' then some (.space, false)
  else if c = 'w' then some (.word, false)
  else if c = 'D' then some (.digit, true)
  else if c = 'S' then some (.space, true)
  else if c = 'W' then some (.word, true)
  else none

/-- The control character of a letter. -/
def control? (c : Char) : Option Char :=
  if c = 'a' then some (Char.ofNat 7)
  else if c = 'f' then some (Char.ofNat 12)
  else if c = 't' then some '\t'
  else if c = 'n' then some '\n'
  else if c = 'r' then some '\r'
  else if c = 'v' then some (Char.ofNat 11)
  else none

/-- A backslash and what it makes of the characters after it. -/
def escape : Read Pattern := do
  need (← bump)
  match ← peek? with
  | none => failure
  | some c =>
    if c.isDigit then failure
    else if c = 'x' then hexEscape 2
    else if c = 'u' then hexEscape 4
    else if c = 'U' then hexEscape 8
    else if c = 'p' ∨ c = 'P' then return .chars (← propertyEscape (c = 'P'))
    else
      let _ ← bump
      match shorthand? c, control? c with
      | some (kind, negated), _ => return .chars (.shorthand kind negated)
      | none, some control => return .char control false
      | none, none =>
        if isEscapable c then return .char c false
        else if c = 'A' then return .anchor .textStart
        else if c = 'z' then return .anchor .textEnd
        else if c = 'b' then return .anchor (← boundaryEscape)
        else if c = 'B' then return .anchor .notWordBoundary
        else if c = '<' then return .anchor .wordStart
        else if c = '>' then return .anchor .wordEnd
        else failure

end Read

end Pattern

end BindingLang
