import BindingLang.Expr.Parser
/-!
  Words: the names and the strings that a source and a tree are written with.

  The words of a token list are the values of its identifiers, keywords and
  strings. The words of a tree are read off it from left to right, each node
  before or behind its children as the language writes it, so that a tree with
  the words of its source has kept all that the source says apart from numbers
  and symbols.

  A map keeps one value for each key. `distinctKeys` goes through a token list
  with the brackets that are open, and tells whether the literal of some map
  repeats a key.
-/

namespace BindingLang

/-- The word that a token writes. -/
def Token.word? (t : Token) : Option String :=
  if t.kind = .identifier ∨ t.kind = .keyword ∨ t.kind = .string then some t.value else none

/-- The words of a token list. -/
def Token.words (ts : List Token) : List String := ts.filterMap Token.word?

/-- The words of a constant; a number has none. -/
def Literal.words : Literal → List String
  | .string s => [s]
  | .integer _ => []
  | .float _ => []
  | .boolean true => ["true"]
  | .boolean false => ["false"]
  | .null => ["null"]

namespace Expr

mutual

/-- The words of a tree, from left to right. -/
def words : Expr → List String
  | .empty => []
  | .literal value => value.words
  | .id name => [name]
  | .unary _ child => words child
  | .binary _ left right => words left ++ words right
  | .getter receiver name => words receiver ++ [name]
  | .invoke receiver method arguments =>
    words receiver ++ method.toList ++ wordsOfItems arguments
  | .index receiver argument => words receiver ++ words argument
  | .ternary condition whenTrue whenFalse =>
    words condition ++ words whenTrue ++ words whenFalse
  | .map entries => wordsOfEntries entries
  | .list items => wordsOfItems items
termination_by structural e => e

def wordsOfItems : List Expr → List String
  | [] => []
  | item :: items => words item ++ wordsOfItems items
termination_by structural items => items

def wordsOfEntries : List (String × Expr) → List String
  | [] => []
  | (key, node) :: entries => key :: (words node ++ wordsOfEntries entries)
termination_by structural entries => entries

end

end Expr

/-- The words of what stands after a dot, once it is split. -/
def Member.words : Member Expr → List String
  | .name member => [member]
  | .call method arguments => method :: Expr.wordsOfItems arguments

/-- A bracket that is open: the brace of a map, with the keys that the map has
so far and whether the next token may be a key, or another bracket. -/
inductive Frame where
  | brace (keys : List String) (fresh : Bool)
  | other

/-- Whether no map repeats a key in the tokens, read inside of the open brackets
`frames`, the innermost first. -/
def distinctKeys : List Frame → List Token → Bool
  | _, [] => true
  | frames, t :: ts =>
    if t.kind = .grouper then
      if t.value = "\x7b" then distinctKeys (.brace [] true :: frames) ts
      else if t.value = "(" ∨ t.value = "[" then distinctKeys (.other :: frames) ts
      else distinctKeys frames.tail ts
    else
      match frames with
      | .brace keys fresh :: frames =>
        if t.kind = .comma then distinctKeys (.brace keys true :: frames) ts
        else if fresh ∧ t.kind = .string then
          !keys.contains t.value && distinctKeys (.brace (t.value :: keys) false :: frames) ts
        else distinctKeys (.brace keys false :: frames) ts
      | frames => distinctKeys frames ts

namespace Token

@[simp] theorem words_nil : words [] = [] := rfl

theorem words_cons_of_some {t : Token} {ts : List Token} {word : String}
    (h : t.word? = some word) : words (t :: ts) = word :: words ts := by
  simp [words, h]

theorem words_cons_of_none {t : Token} {ts : List Token} (h : t.word? = none) :
    words (t :: ts) = words ts := by
  simp [words, h]

/-- A token writes a word if it is a name or a string, and no other does. -/
theorem word?_of_kind {t : Token} {kind : Kind} (h : t.kind = kind) :
    t.word? = if kind = .identifier ∨ kind = .keyword ∨ kind = .string then some t.value
      else none := by
  rw [word?, h]

theorem word?_of_isSymbol {t : Token} {value : String} (h : t.isSymbol .grouper value = true) :
    t.word? = none := by
  simp only [isSymbol, Bool.and_eq_true, beq_iff_eq] at h
  simp [word?, h.1]

end Token

/-- A word that stands for a constant is the constant's spelling. -/
theorem words_of_wordLiteral? {word : String} {value : Literal}
    (h : Parser.wordLiteral? word = some value) : value.words = [word] := by
  unfold Parser.wordLiteral? at h
  split at h
  · rename_i hw
    cases h
    rw [hw]
    rfl
  split at h
  · rename_i hw
    cases h
    rw [hw]
    rfl
  split at h
  · rename_i hw
    cases h
    rw [hw]
    rfl
  · cases h

theorem words_of_ofDecimal? {sign digits : String} {value : Literal}
    (h : Literal.ofDecimal? sign digits = some value) : value.words = [] := by
  obtain ⟨x, -, rfl⟩ := Option.map_eq_some_iff.mp h
  rfl

theorem words_of_ofDigits? {sign digits : String} {value : Literal}
    (h : Literal.ofDigits? sign digits = some value) : value.words = [] := by
  simp only [Literal.ofDigits?] at h
  split at h
  · cases h
    rfl
  · obtain ⟨x, -, rfl⟩ := Option.map_eq_some_iff.mp h
    rfl

section Keys

variable {frames : List Frame} {t : Token} {ts : List Token}

/-- Whether the next token is not a key, whatever it is. -/
def Settled (frames : List Frame) : Prop := ∀ keys, frames.head? ≠ some (.brace keys true)

theorem settled_nil : Settled [] := by
  intro keys h
  cases h

theorem settled_other : Settled (.other :: frames) := by
  intro keys h
  cases h

theorem settled_brace {keys : List String} : Settled (.brace keys false :: frames) := by
  intro keys h
  cases h

/-- What a token does to the open brackets. -/
theorem distinctKeys_cons (frames : List Frame) (t : Token) (ts : List Token) :
    distinctKeys frames (t :: ts) =
      if t.kind = .grouper then
        if t.value = "\x7b" then distinctKeys (.brace [] true :: frames) ts
        else if t.value = "(" ∨ t.value = "[" then distinctKeys (.other :: frames) ts
        else distinctKeys frames.tail ts
      else
        match frames with
        | .brace keys fresh :: frames =>
          if t.kind = .comma then distinctKeys (.brace keys true :: frames) ts
          else if fresh ∧ t.kind = .string then
            !keys.contains t.value && distinctKeys (.brace (t.value :: keys) false :: frames) ts
          else distinctKeys (.brace keys false :: frames) ts
        | frames => distinctKeys frames ts := rfl

/-- A token that is no bracket and no comma leaves the brackets as they are. -/
theorem distinctKeys_plain (hf : Settled frames) {kind : Token.Kind} (hkind : t.kind = kind)
    (hplain : kind ≠ .grouper ∧ kind ≠ .comma) :
    distinctKeys frames (t :: ts) = distinctKeys frames ts := by
  subst hkind
  cases frames with
  | nil => simp [distinctKeys_cons, hplain]
  | cons frame frames =>
    cases frame with
    | other => simp [distinctKeys_cons, hplain]
    | brace keys fresh =>
      have hfresh : fresh = false := by
        rw [← Bool.not_eq_true]
        rintro rfl
        exact hf keys rfl
      simp [distinctKeys_cons, hplain, hfresh]

theorem distinctKeys_open (h : t.isSymbol .grouper "(" = true ∨ t.isSymbol .grouper "[" = true) :
    distinctKeys frames (t :: ts) = distinctKeys (.other :: frames) ts := by
  simp only [Token.isSymbol, Bool.and_eq_true, beq_iff_eq] at h
  rcases h with ⟨hk, hv⟩ | ⟨hk, hv⟩
  · simp [distinctKeys_cons, hk, hv]
  · simp [distinctKeys_cons, hk, hv]

theorem distinctKeys_openBrace (h : t.isSymbol .grouper "\x7b" = true) :
    distinctKeys frames (t :: ts) = distinctKeys (.brace [] true :: frames) ts := by
  simp only [Token.isSymbol, Bool.and_eq_true, beq_iff_eq] at h
  simp [distinctKeys_cons, h]

theorem distinctKeys_close {closer : String} (hc : closer ∈ [")", "]", "\x7d"])
    (h : t.isSymbol .grouper closer = true) :
    distinctKeys frames (t :: ts) = distinctKeys frames.tail ts := by
  simp only [Token.isSymbol, Bool.and_eq_true, beq_iff_eq] at h
  simp only [List.mem_cons, List.not_mem_nil, or_false] at hc
  rcases hc with rfl | rfl | rfl
  · simp [distinctKeys_cons, h]
  · simp [distinctKeys_cons, h]
  · simp [distinctKeys_cons, h]

theorem distinctKeys_comma (h : t.kind = .comma) :
    distinctKeys (.other :: frames) (t :: ts) = distinctKeys (.other :: frames) ts := by
  simp [distinctKeys_cons, h]

theorem distinctKeys_commaBrace {keys : List String} {fresh : Bool} (h : t.kind = .comma) :
    distinctKeys (.brace keys fresh :: frames) (t :: ts) =
      distinctKeys (.brace keys true :: frames) ts := by
  simp [distinctKeys_cons, h]

/-- Where a key may stand, a string is one, and must be a new one. -/
theorem distinctKeys_key {keys : List String} (h : t.kind = .string) :
    distinctKeys (.brace keys true :: frames) (t :: ts) = true ↔
      t.value ∉ keys ∧ distinctKeys (.brace (t.value :: keys) false :: frames) ts = true := by
  simp [distinctKeys_cons, h]

end Keys

end BindingLang
