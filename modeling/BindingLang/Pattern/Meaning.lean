import BindingLang.Pattern.Basic
import BindingLang.Text.Folding
import BindingLang.Text.Property
/-!
  The meaning of patterns: flags worked in, classes as sets of characters.

  A `Node` says what may follow what. It has no meaning where the pattern asks
  for a property that does not exist, or for bytes that are no characters.
-/

namespace BindingLang

namespace Pattern

/-- The switches that decide what a pattern means. -/
structure Flags where
  ignoreCase : Bool
  multiLine : Bool
  dotAll : Bool
  unicode : Bool
  crlf : Bool

/-- The switches of a pattern that sets none. -/
def Flags.start : Flags := ⟨false, false, false, true, false⟩

def Flags.set (flags : Flags) (change : Flag × Bool) : Flags :=
  match change.1 with
  | .ignoreCase => { flags with ignoreCase := change.2 }
  | .multiLine => { flags with multiLine := change.2 }
  | .dotAll => { flags with dotAll := change.2 }
  | .unicode => { flags with unicode := change.2 }
  | .crlf => { flags with crlf := change.2 }
  | .swapGreed => flags
  | .loose => flags

def Flags.change (flags : Flags) (change : FlagChange) : Flags := change.foldl Flags.set flags

/-! ## Sets of characters -/

/-- Whether the character is ASCII with a number in one of the ranges. -/
def inAscii (ranges : List (Char × Char)) (c : Char) : Bool :=
  ranges.any fun range => range.1 ≤ c && c ≤ range.2

def digits : Char × Char := ('0', '9')

def capitals : Char × Char := ('A', 'Z')

def smalls : Char × Char := ('a', 'z')

/-- The blanks of ASCII. -/
def asciiBlanks : List (Char × Char) := [('\t', '\r'), (' ', ' ')]

def AsciiClass.holds : AsciiClass → Char → Bool
  | .alnum => inAscii [digits, capitals, smalls]
  | .alpha => inAscii [capitals, smalls]
  | .ascii => fun c => c.toNat < 128
  | .blank => inAscii [('\t', '\t'), (' ', ' ')]
  | .cntrl => fun c => c.toNat < 32 || c.toNat == 127
  | .digit => inAscii [digits]
  | .graph => inAscii [('!', '~')]
  | .lower => inAscii [smalls]
  | .print => inAscii [(' ', '~')]
  | .punct => fun c => inAscii [('!', '~')] c && !inAscii [digits, capitals, smalls] c
  | .space => inAscii asciiBlanks
  | .upper => inAscii [capitals]
  | .word => inAscii [digits, capitals, smalls, ('_', '_')]
  | .xdigit => inAscii [digits, ('A', 'F'), ('a', 'f')]

/-- The characters of a shorthand, of all or of ASCII ones only. -/
def Shorthand.holds (unicode : Bool) : Shorthand → Char → Bool
  | .digit => if unicode then Text.Property.decimalDigits.holds else inAscii [digits]
  | .space => if unicode then Text.isBlank else inAscii asciiBlanks
  | .word =>
    if unicode then Text.Property.wordCharacters.holds
    else inAscii [digits, capitals, smalls, ('_', '_')]

def Query.property? : Query → Option Text.Property
  | .named name => Text.Property.ofName? name
  | .valued property value => Text.Property.ofValue? property value

/-- The set closed under change of case, if case is ignored. -/
def Flags.close (flags : Flags) (test : Char → Bool) : Char → Bool :=
  if !flags.ignoreCase then test
  else if flags.unicode then fun c => (Text.sameLetter c).any test
  else fun c => test c || test c.toLower || test c.toUpper

/-- The set, or all characters outside it. -/
def negateIf (negated : Bool) (test : Char → Bool) : Char → Bool := fun c => test c != negated

def SetOperation.apply : SetOperation → Bool → Bool → Bool
  | .intersection, a, b => a && b
  | .difference, a, b => a && !b
  | .symmetricDifference, a, b => a != b

namespace CharSet

mutual

/-- The set as a test of characters. Case is closed over at each bracket and
before each operation, so negation and subtraction come after it. -/
def test? (flags : Flags) : CharSet → Option (Char → Bool)
  | .char c byte =>
    if flags.unicode ∨ (c.toNat < 128 ∧ !byte) ∨ c.toNat < 128 then some (· == c) else none
  | .range first last byte =>
    if flags.unicode ∨ (last.toNat < 128 ∧ !byte) ∨ last.toNat < 128 then
      some fun c => first ≤ c && c ≤ last
    else none
  | .ascii kind negated =>
    if flags.unicode ∨ !negated then some (negateIf negated (flags.close kind.holds)) else none
  | .shorthand kind negated =>
    if flags.unicode ∨ !negated then some (negateIf negated (kind.holds flags.unicode)) else none
  | .property query negated =>
    if flags.unicode then
      query.property?.map fun property => negateIf negated (flags.close property.holds)
    else none
  | .bracket negated inner =>
    if flags.unicode ∨ !negated then
      (test? flags inner).map fun test => negateIf negated (flags.close test)
    else none
  | .union items => testAny? flags items
  | .combine operation left right => do
    let left ← test? flags left
    let right ← test? flags right
    some fun c => operation.apply (flags.close left c) (flags.close right c)
termination_by structural s => s

/-- The union of the sets. -/
def testAny? (flags : Flags) : List CharSet → Option (Char → Bool)
  | [] => some fun _ => false
  | item :: items => do
    let test ← test? flags item
    let others ← testAny? flags items
    some fun c => test c || others c
termination_by structural items => items

end

mutual

/-- About how many states of an automaton the set takes. -/
def weight : CharSet → Nat
  | .char _ _ => 1
  | .range _ _ _ => 2
  | .ascii _ _ => 4
  | .shorthand .word _ => 1600
  | .shorthand .digit _ => 140
  | .shorthand .space _ => 20
  | .property _ _ => 500
  | .bracket _ inner => weight inner
  | .union items => weightOfAll items
  | .combine _ left right => weight left + weight right
termination_by structural s => s

def weightOfAll : List CharSet → Nat
  | [] => 1
  | item :: items => weight item + weightOfAll items
termination_by structural items => items

end

end CharSet

/-! ## Places -/

/-- A test of a place: the character before it and the one after it. -/
abbrev PlaceTest := Option Char → Option Char → Bool

/-- Whether the character next to a place belongs to a word. -/
def besideWord (unicode : Bool) (c : Option Char) : Bool :=
  (c.map (Shorthand.word.holds unicode)).getD false

/-- Whether the place between two characters is what the anchor asks for. -/
def Anchor.test (flags : Flags) : Anchor → PlaceTest
  | .textStart => fun before _ => before.isNone
  | .textEnd => fun _ after => after.isNone
  | .lineStart =>
    if !flags.multiLine then fun before _ => before.isNone
    else if flags.crlf then fun before after =>
      before.isNone || before == some '\n' || (before == some '\r' && after != some '\n')
    else fun before _ => before.isNone || before == some '\n'
  | .lineEnd =>
    if !flags.multiLine then fun _ after => after.isNone
    else if flags.crlf then fun before after =>
      after.isNone || after == some '\r' || (after == some '\n' && before != some '\r')
    else fun _ after => after.isNone || after == some '\n'
  | .wordBoundary => fun before after =>
    besideWord flags.unicode before != besideWord flags.unicode after
  | .notWordBoundary => fun before after =>
    besideWord flags.unicode before == besideWord flags.unicode after
  | .wordStart => fun before after =>
    !besideWord flags.unicode before && besideWord flags.unicode after
  | .wordEnd => fun before after =>
    besideWord flags.unicode before && !besideWord flags.unicode after
  | .wordStartHalf => fun before _ => !besideWord flags.unicode before
  | .wordEndHalf => fun _ after => !besideWord flags.unicode after

/-! ## Nodes -/

/-- What a pattern means. -/
inductive Node where
  | empty
  /-- One character of a set, with the weight of the set. -/
  | char (test : Char → Bool) (weight : Nat)
  | place (test : PlaceTest)
  | seq (first second : Node)
  | alt (first second : Node)
  | repeated (least : Nat) (most : Option Nat) (inner : Node)

/-- About how many states of an automaton the node takes, its repetitions
written out. -/
def Node.weight : Node → Nat
  | .empty => 1
  | .char _ weight => weight
  | .place _ => 1
  | .seq first second => first.weight + second.weight
  | .alt first second => first.weight + second.weight + 1
  | .repeated least most inner => inner.weight * max 1 (max least (most.getD least))

/-- What the dot stands for. -/
def Flags.dot (flags : Flags) : Char → Bool :=
  if flags.dotAll then fun _ => true
  else if flags.crlf then fun c => c != '\n' && c != '\r'
  else fun c => c != '\n'

mutual

/-- The meaning of a pattern under flags, with the flags that hold after it. -/
def node? (flags : Flags) : Pattern → Option (Node × Flags)
  | .empty => some (.empty, flags)
  | .flags change => some (.empty, flags.change change)
  | .char c byte =>
    if flags.unicode ∨ !byte ∨ c.toNat < 128 then
      some (.char (flags.close (· == c)) c.utf8Size, flags)
    else none
  | .any => if flags.unicode then some (.char flags.dot 8, flags) else none
  | .anchor place => some (.place (place.test flags), flags)
  | .chars set => (set.test? flags).map fun test => (.char test set.weight, flags)
  | .repeated least most inner =>
    (node? flags inner).map fun result => (.repeated least most result.1, result.2)
  | .group change inner =>
    (node? (flags.change change) inner).map fun result => (result.1, flags)
  | .alternation branches => branches? flags branches
  | .sequence items => items? flags items
termination_by structural p => p

/-- One of the patterns; flags set in one hold in those after it. -/
def branches? (flags : Flags) : List Pattern → Option (Node × Flags)
  | [] => some (.empty, flags)
  | [branch] => node? flags branch
  | branch :: branches => do
    let first ← node? flags branch
    let second ← branches? first.2 branches
    some (.alt first.1 second.1, second.2)
termination_by structural branches => branches

/-- The patterns in a row. -/
def items? (flags : Flags) : List Pattern → Option (Node × Flags)
  | [] => some (.empty, flags)
  | item :: items => do
    let first ← node? flags item
    let second ← items? first.2 items
    some (.seq first.1 second.1, second.2)
termination_by structural items => items

end

end Pattern

end BindingLang
