import BindingLang.Text.Blank
import BindingLang.Token.Basic
/-!
  Scanning: cutting a source text into tokens.

  `Scan.ofChars` reads the token at the front of a text and tells how many
  characters it takes. A `Scanner` walks a source with it: `next` skips blanks
  and delivers one token, or none at the end of the source or before a
  character that starts no token. `stream` is the whole of what a scanner
  delivers.
-/

namespace BindingLang

/-- What can go wrong in scanning: a quote that is never closed, told by the
number of characters before it. -/
inductive LexError where
  | unterminatedString (position : Nat)
  deriving DecidableEq, Repr

def LexError.message : LexError → String
  | .unterminatedString position =>
    "unterminated string starting at position " ++ toString position

/-- What stands at the front of a text without leading blanks. -/
inductive Scan where
  /-- A token that takes `width` characters. -/
  | token (token : Token) (width : Nat)
  /-- The end, or a character that starts no token. -/
  | stop
  /-- A string without its closing quote. -/
  | unclosed
  deriving DecidableEq, Repr

/-- The character that a backslash and `c` stand for. -/
def unescape (c : Char) : Char :=
  if c = 'n' then '\n'
  else if c = 'r' then '\r'
  else if c = 't' then '\t'
  else if c = 'b' then Char.ofNat 8
  else if c = 'f' then Char.ofNat 12
  else c

/-- The content of a string up to its closing quote, and the number of
characters up to and with that quote; `none` if there is no such quote. -/
def readQuoted (quote : Char) : List Char → Option (List Char × Nat)
  | [] => none
  | c :: rest =>
    if c = quote then some ([], 1)
    else if c = '\\' then
      match rest with
      | [] => none
      | escaped :: rest =>
        (readQuoted quote rest).map fun r => (unescape escaped :: r.1, r.2 + 2)
    else (readQuoted quote rest).map fun r => (c :: r.1, r.2 + 1)

namespace Scan

/-- A token that is written as the first `width` characters. -/
def take (kind : Token.Kind) (cs : List Char) (width precedence : Nat) : Scan :=
  .token ⟨kind, String.ofList (cs.take width), precedence⟩ width

def string (quote : Char) (rest : List Char) : Scan :=
  match readQuoted quote rest with
  | some (content, width) => .token ⟨.string, String.ofList content, 0⟩ (width + 1)
  | none => .unclosed

def word (cs : List Char) : Scan :=
  let chars := cs.takeWhile Symbol.isNameChar
  let kind := if Symbol.isKeyword (String.ofList chars) then Token.Kind.keyword else .identifier
  .take kind cs chars.length 0

/-- The number of digits at the front. -/
def digitRun (cs : List Char) : Nat := (cs.takeWhile Char.isDigit).length

def number (cs : List Char) : Scan :=
  let whole := digitRun cs
  match cs.drop whole with
  | '.' :: rest =>
    let places := digitRun rest
    if places = 0 then .take .integer cs whole 0 else .take .decimal cs (whole + 1 + places) 0
  | _ => .take .integer cs whole 0

/-- A dot: the point of a number if a digit follows, else a member read. -/
def dot (rest : List Char) : Scan :=
  let places := digitRun rest
  if places = 0 then .token ⟨.dot, ".", Symbol.tightest⟩ 1
  else .take .decimal ('.' :: rest) (places + 1) 0

/-- Whether the text begins with `width` characters that make one of `symbols`. -/
def beginsWith (cs : List Char) (width : Nat) (symbols : List String) : Bool :=
  symbols.contains (String.ofList (cs.take width))

/-- The number of characters of the longest operator at the front. -/
def operatorWidth (cs : List Char) : Nat :=
  if beginsWith cs 3 Symbol.triples then 3
  else if beginsWith cs 2 Symbol.pairs then 2
  else 1

def operator (cs : List Char) : Scan :=
  let width := operatorWidth cs
  .take .operator cs width (Symbol.precedence (String.ofList (cs.take width)))

/-- What stands at the front of a text without leading blanks. -/
def ofChars : List Char → Scan
  | [] => .stop
  | c :: rest =>
    if c = '"' ∨ c = '\'' then .string c rest
    else if Symbol.isNameStart c then .word (c :: rest)
    else if c.isDigit then .number (c :: rest)
    else if c = '.' then .dot rest
    else if c = ',' then .take .comma (c :: rest) 1 0
    else if c = ':' then .take .colon (c :: rest) 1 0
    else if Symbol.operatorChars.contains c then .operator (c :: rest)
    else if Symbol.grouperChars.contains c then
      .take .grouper (c :: rest) 1 (Symbol.precedence (String.ofList [c]))
    else .stop

end Scan

/-- A walk over a source: the characters still ahead, how many are behind, and
where the text not yet delivered begins. -/
structure Scanner where
  rest : List Char
  position : Nat
  mark : Nat
  deriving DecidableEq, Repr

namespace Scanner

/-- The scanner before the first character of a source. -/
def ofText (source : String) : Scanner := ⟨source.toList, 0, 0⟩

/-- The scanner behind the blanks at its front, which are no one's text. -/
def skipBlanks (s : Scanner) : Scanner :=
  let start := s.position + (s.rest.takeWhile Text.isBlank).length
  ⟨Text.trimStart s.rest, start, start⟩

/-- The next token, none once the stream has ended. An unclosed string takes
the rest of the source with it. -/
def next (s : Scanner) : Except LexError (Option Token) × Scanner :=
  let s := s.skipBlanks
  match Scan.ofChars s.rest with
  | .token token width =>
    (.ok (some token), ⟨s.rest.drop width, s.position + width, s.position + width⟩)
  | .stop => (.ok none, s)
  | .unclosed =>
    (.error (.unterminatedString s.position), ⟨[], s.position + s.rest.length, s.mark⟩)

end Scanner

/-- Everything a scanner delivers: its tokens in order, and the error that
ends them, if one does. -/
structure Token.Stream where
  tokens : List Token
  failure : Option LexError
  deriving DecidableEq, Repr

/-- The tokens that `fuel` calls of `next` deliver. -/
def Scanner.streamWithin : Nat → Scanner → Token.Stream
  | 0, _ => ⟨[], none⟩
  | fuel + 1, s =>
    match s.next with
    | (.ok (some token), s) =>
      let rest := streamWithin fuel s
      ⟨token :: rest.tokens, rest.failure⟩
    | (.ok none, _) => ⟨[], none⟩
    | (.error e, _) => ⟨[], some e⟩

/-- Everything the scanner delivers. Each token takes a character at least, so
one call more than there are characters reaches the end. -/
def Scanner.stream (s : Scanner) : Token.Stream := s.streamWithin (s.rest.length + 1)

/-- The token stream of a source. -/
def Token.Stream.ofText (source : String) : Token.Stream := (Scanner.ofText source).stream

end BindingLang
