import BindingLang.Proofs.Token.Written
/-!
  Spellings: the text that each kind of token is written as.

  For every kind of token there is a lemma that its text scans to it. Brackets,
  commas and colons scan the same before any text; the other tokens need a
  separator or the end behind them, which `Written.cons` asks for.
-/

namespace BindingLang

open Scan

/-- Whether the text can be a name. -/
def IsIdentifier (cs : List Char) : Prop :=
  (∃ c ∈ cs.head?, Symbol.isNameStart c = true) ∧ ∀ c ∈ cs, Symbol.isNameChar c = true

instance : DecidablePred IsIdentifier := fun cs =>
  decidable_of_iff ((cs.head?.any Symbol.isNameStart && cs.all Symbol.isNameChar) = true)
    (by simp [IsIdentifier, Option.any_eq_true])

/-- Whether the text is a run of digits. -/
def IsDigits (cs : List Char) : Prop := cs ≠ [] ∧ ∀ c ∈ cs, c.isDigit = true

/-- The quotation marks. -/
inductive Quote where
  | single
  | double

/-- The character of a quotation mark. -/
def Quote.char : Quote → Char
  | .single => '\''
  | .double => '"'

/-- The text with a backslash before each quotation mark and each backslash. -/
def escaped (q : Quote) (cs : List Char) : List Char :=
  cs.flatMap fun c => if c = q.char ∨ c = '\\' then ['\\', c] else [c]

/-- The letters that stand for another character behind a backslash: for the end of a line,
a return, a tab, a step back and a new page. -/
def escapeLetters : List (Char × Char) :=
  [('n', Char.ofNat 10), ('r', Char.ofNat 13), ('t', Char.ofNat 9), ('b', Char.ofNat 8),
    ('f', Char.ofNat 12)]

/-- What a character stands for behind a backslash: one of these letters for its own
character, and every other for itself. -/
def behindSlash (c : Char) : Char := (escapeLetters.lookup c).getD c

theorem unescape_eq (c : Char) : unescape c = behindSlash c := by
  unfold unescape
  split
  · subst c; rfl
  split
  · subst c; rfl
  split
  · subst c; rfl
  split
  · subst c; rfl
  split
  · subst c; rfl
  · rename_i hn hr ht hb hf
    simp only [behindSlash, escapeLetters, List.lookup_cons, beq_false_of_ne hn,
      beq_false_of_ne hr, beq_false_of_ne ht, beq_false_of_ne hb, beq_false_of_ne hf]
    rfl

/-- Whether the body, between two quotation marks, writes the content: every
character stands for itself, but for the quotation mark and the backslash, which
makes one of any character behind it. -/
inductive InQuotes (q : Quote) : List Char → List Char → Prop where
  | nil : InQuotes q [] []
  | plain {c : Char} {body content : List Char} (noMark : c ≠ q.char) (noSlash : c ≠ '\\')
      (rest : InQuotes q body content) : InQuotes q (c :: body) (c :: content)
  | escape {c : Char} {body content : List Char} (rest : InQuotes q body content) :
      InQuotes q ('\\' :: c :: body) (behindSlash c :: content)

/-- The text in quotes. -/
def quoted (q : Quote) (cs : List Char) : List Char := q.char :: escaped q cs ++ [q.char]

section Spelling

variable {cs rest : List Char} {ts : List Token} {c : Char}

theorem takeWhile_eq_self {p : Char → Bool} (h : ∀ c ∈ cs, p c = true) : cs.takeWhile p = cs := by
  rw [← List.append_nil cs, List.takeWhile_append_of_pos h, List.takeWhile_nil]

theorem isNameStart_not_quote (h : Symbol.isNameStart c = true) : ¬ (c = '"' ∨ c = '\'') := by
  rintro (rfl | rfl)
  · revert h; decide
  · revert h; decide

theorem isDigit_not_nameStart (h : c.isDigit = true) : ¬ Symbol.isNameStart c = true := by
  intro hs
  simp only [Symbol.isNameStart, Bool.or_eq_true, beq_iff_eq] at hs
  obtain (halpha | rfl) | rfl := hs
  · have hletter := toNat_of_isAlpha halpha
    have hbounds := toNat_of_isDigit h
    omega
  · revert h; decide
  · revert h; decide

theorem isDigit_not_quote (h : c.isDigit = true) : ¬ (c = '"' ∨ c = '\'') := by
  rintro (rfl | rfl)
  · revert h; decide
  · revert h; decide

/-- A word scans to a keyword or an identifier, before any text that the name does
not go on with. -/
theorem scan_word_before (h : IsIdentifier cs)
    (hr : ∀ c ∈ rest.head?, Symbol.isNameChar c = false) :
    ofChars (cs ++ rest) = .token ⟨if Symbol.isKeyword (String.ofList cs) then .keyword
      else .identifier, String.ofList cs, 0⟩ cs.length := by
  obtain ⟨⟨c, hc, hstart⟩, hall⟩ := h
  have hchars : (cs ++ rest).takeWhile Symbol.isNameChar = cs := by
    rw [List.takeWhile_append_of_pos hall]
    cases rest with
    | nil => exact List.append_nil cs
    | cons b rest => simp [hr b rfl]
  obtain ⟨ds, rfl⟩ := List.head?_eq_some_iff.mp hc
  rw [List.cons_append] at hchars ⊢
  rw [ofChars, if_neg (isNameStart_not_quote hstart), if_pos hstart]
  simp only [word, hchars, Scan.take]
  rw [← List.cons_append, List.take_left]

theorem scan_word (h : IsIdentifier cs) :
    ofChars cs = .token ⟨if Symbol.isKeyword (String.ofList cs) then .keyword else .identifier,
      String.ofList cs, 0⟩ cs.length := by
  have hscan := @scan_word_before cs [] h (by simp)
  rwa [List.append_nil] at hscan

theorem digitRun_eq (h : ∀ c ∈ cs, c.isDigit = true) : digitRun cs = cs.length := by
  rw [digitRun, takeWhile_eq_self h]

theorem ofChars_digit (hc : c.isDigit = true) : ofChars (c :: rest) = number (c :: rest) := by
  rw [ofChars, if_neg (isDigit_not_quote hc), if_neg (isDigit_not_nameStart hc), if_pos hc]

theorem scan_digits (h : IsDigits cs) :
    ofChars cs = .token ⟨.integer, String.ofList cs, 0⟩ cs.length := by
  obtain ⟨hne, hall⟩ := h
  cases cs with
  | nil => exact absurd rfl hne
  | cons c cs =>
    rw [ofChars_digit (hall c List.mem_cons_self)]
    simp only [number, digitRun_eq hall, List.drop_length, Scan.take, List.take_length]

/-- Digits, a point and digits scan to a decimal. -/
theorem scan_decimal {whole places : List Char} (hw : IsDigits whole) (hp : IsDigits places) :
    ofChars (whole ++ '.' :: places) =
      .token ⟨.decimal, String.ofList (whole ++ '.' :: places), 0⟩
        (whole ++ '.' :: places).length := by
  obtain ⟨hwne, hwall⟩ := hw
  obtain ⟨hpne, hpall⟩ := hp
  have hrun : digitRun (whole ++ '.' :: places) = whole.length := by
    rw [digitRun_append (by decide), digitRun_eq hwall]
  have hplaces : ¬ places.length = 0 := by
    rw [List.length_eq_zero_iff]
    exact hpne
  cases whole with
  | nil => exact absurd rfl hwne
  | cons c whole =>
    rw [List.cons_append, ofChars_digit (hwall c List.mem_cons_self), ← List.cons_append]
    have hlen : (c :: whole).length + 1 + places.length =
        ((c :: whole) ++ '.' :: places).length := by
      simp only [List.length_append, List.length_cons]
      omega
    simp only [number, hrun, List.drop_left, digitRun_eq hpall, if_neg hplaces, hlen, Scan.take,
      List.take_length]

theorem slash_ne_char (q : Quote) : '\\' ≠ q.char := by
  cases q <;> decide

theorem isQuote_char (q : Quote) : q.char = '"' ∨ q.char = '\'' := by
  cases q <;> decide

theorem exists_quote (h : c = '"' ∨ c = '\'') : ∃ q : Quote, c = q.char := by
  rcases h with rfl | rfl
  · exact ⟨.double, rfl⟩
  · exact ⟨.single, rfl⟩

/-- What is written between quotation marks is read back. -/
theorem InQuotes.readQuoted_eq {q : Quote} {body content : List Char}
    (h : InQuotes q body content) :
    readQuoted q.char (body ++ [q.char]) = some (content, (body ++ [q.char]).length) := by
  induction h with
  | nil => exact readQuoted_close q.char []
  | plain noMark noSlash rest ih =>
    rw [List.cons_append, readQuoted_plain noMark noSlash, ih]
    rfl
  | escape rest ih =>
    rw [List.cons_append, List.cons_append, readQuoted_escape (slash_ne_char q), ih,
      ← unescape_eq]
    rfl

/-- A text in quotes scans to a string with what it writes. -/
theorem InQuotes.scan {q : Quote} {body content : List Char} (h : InQuotes q body content) :
    ofChars (q.char :: body ++ [q.char]) =
      .token ⟨.string, String.ofList content, 0⟩ (q.char :: body ++ [q.char]).length := by
  rw [List.cons_append, ofChars, if_pos (isQuote_char q), Scan.string, h.readQuoted_eq]
  rfl

/-- A backslash before a quotation mark or a backslash keeps it as it is. -/
theorem inQuotes_escaped (q : Quote) (cs : List Char) : InQuotes q (escaped q cs) cs := by
  induction cs with
  | nil => exact .nil
  | cons c cs ih =>
    rw [escaped, List.flatMap_cons, ← escaped]
    by_cases hc : c = q.char ∨ c = '\\'
    · have hun : behindSlash c = c := by
        rcases hc with rfl | rfl
        · cases q <;> decide
        · decide
      rw [if_pos hc]
      have hescape : InQuotes q ('\\' :: c :: escaped q cs) (behindSlash c :: cs) := .escape ih
      rwa [hun] at hescape
    · rw [if_neg hc]
      rw [not_or] at hc
      exact .plain hc.1 hc.2 ih

/-- A text in quotes scans to a string with the text. -/
theorem scan_quoted (q : Quote) (cs : List Char) :
    ofChars (quoted q cs) = .token ⟨.string, String.ofList cs, 0⟩ (quoted q cs).length :=
  (inQuotes_escaped q cs).scan

/-- A bracket scans before any text. -/
theorem scan_bracket (hc : c ∈ Symbol.grouperChars) (rest : List Char) :
    ofChars (c :: rest) =
      .token ⟨.grouper, String.ofList [c], Symbol.precedence (String.ofList [c])⟩ 1 := by
  simp only [Symbol.grouperChars, List.mem_cons, List.not_mem_nil, or_false] at hc
  rcases hc with rfl | rfl | rfl | rfl | rfl | rfl <;> rfl

theorem scan_comma (rest : List Char) : ofChars (',' :: rest) = .token ⟨.comma, ",", 0⟩ 1 := rfl

theorem scan_colon (rest : List Char) : ofChars (':' :: rest) = .token ⟨.colon, ":", 0⟩ 1 := rfl

/-- A dot that no digit follows is that of a member read. -/
theorem scan_dot (h : ∀ c ∈ rest.head?, c.isDigit = false) :
    ofChars ('.' :: rest) = .token ⟨.dot, ".", Symbol.tightest⟩ 1 := by
  have hrun : digitRun rest = 0 := by
    cases rest with
    | nil => rfl
    | cons c rest => simp [digitRun, h c rfl]
  show dot rest = _
  rw [dot, hrun]
  rfl

/-- The operators, with the question mark of the choice. -/
def operators : List String := "?" :: "!" :: Symbol.binaryOperators

theorem scan_operator_alone {operator : String} (h : operator ∈ operators) :
    ofChars operator.toList =
      .token ⟨.operator, operator, Symbol.precedence operator⟩ operator.toList.length := by
  revert operator
  decide

/-- An operator scans before any text that does not begin with a character of
operators. -/
theorem scan_operator {operator : String} (h : operator ∈ operators)
    (hr : ∀ c ∈ rest.head?, c ∉ Symbol.operatorChars) :
    ofChars (operator.toList ++ rest) =
      .token ⟨.operator, operator, Symbol.precedence operator⟩ operator.toList.length := by
  have halone := scan_operator_alone h
  -- The scan of operators is entered by the first character, before any text.
  have hchars : ∀ operator ∈ operators, ∃ c cs, operator.toList = c :: cs ∧
      ∀ rest, ofChars (c :: rest) = Scan.operator (c :: rest) := by
    intro operator hm
    simp only [operators, Symbol.binaryOperators, List.mem_cons, List.not_mem_nil, or_false] at hm
    rcases hm with rfl | rfl | rfl | rfl | rfl | rfl | rfl | rfl | rfl | rfl | rfl | rfl | rfl |
      rfl | rfl | rfl | rfl | rfl | rfl | rfl
    all_goals exact ⟨_, _, rfl, fun _ => rfl⟩
  obtain ⟨c, cs, hcs, hscan⟩ := hchars operator h
  cases rest with
  | nil => rw [List.append_nil]; exact halone
  | cons b rest =>
    rw [hcs] at halone ⊢
    rw [List.cons_append, hscan, ← List.cons_append,
      operator_append (List.cons_ne_nil c cs) (hr b rfl), ← hscan]
    exact halone

end Spelling

/-! ## The tokens themselves -/

/-- A bracket. -/
def bracketToken (c : Char) : Token :=
  ⟨.grouper, String.ofList [c], Symbol.precedence (String.ofList [c])⟩

/-- An operator. -/
def operatorToken (operator : String) : Token :=
  ⟨.operator, operator, Symbol.precedence operator⟩

/-- A word. -/
def wordToken (word : String) : Token :=
  ⟨if Symbol.isKeyword word then .keyword else .identifier, word, 0⟩

def dotToken : Token := ⟨.dot, ".", Symbol.tightest⟩

def commaToken : Token := ⟨.comma, ",", 0⟩

def colonToken : Token := ⟨.colon, ":", 0⟩

section Tokens

variable {us : List Token} {c : Char} {rest : List Char}

theorem written_bracket (hc : c ∈ Symbol.grouperChars) (h : Written rest us) :
    Written (c :: rest) (bracketToken c :: us) :=
  @Written.token [c] rest _ us (List.cons_ne_nil _ _) (scan_bracket hc rest) h

theorem written_comma (h : Written rest us) : Written (',' :: rest) (commaToken :: us) :=
  @Written.token [','] rest _ us (List.cons_ne_nil _ _) (scan_comma rest) h

theorem written_colon (h : Written rest us) : Written (':' :: rest) (colonToken :: us) :=
  @Written.token [':'] rest _ us (List.cons_ne_nil _ _) (scan_colon rest) h

/-- The only character of operators that the rest must not begin with is one
that the operator would go on with. -/
theorem written_operator {operator : String} (ho : operator ∈ operators)
    (hr : ∀ c ∈ rest.head?, c ∉ Symbol.operatorChars) (h : Written rest us) :
    Written (operator.toList ++ rest) (operatorToken operator :: us) := by
  have hne : ∀ operator ∈ operators, operator.toList ≠ [] := by decide
  exact .token (hne operator ho) (scan_operator ho hr) h

theorem written_dot (hr : ∀ c ∈ rest.head?, c.isDigit = false) (h : Written rest us) :
    Written ('.' :: rest) (dotToken :: us) :=
  @Written.token ['.'] rest _ us (List.cons_ne_nil _ _) (scan_dot hr) h

theorem written_word_before {word : String} (hw : IsIdentifier word.toList)
    (hr : ∀ c ∈ rest.head?, Symbol.isNameChar c = false) (h : Written rest us) :
    Written (word.toList ++ rest) (wordToken word :: us) := by
  have hscan := scan_word_before hw hr
  rw [String.ofList_toList] at hscan
  refine .token ?_ hscan h
  intro hnil
  obtain ⟨⟨c, hc, -⟩, -⟩ := hw
  rw [hnil] at hc
  cases hc

theorem written_word {word : String} (hw : IsIdentifier word.toList) (hr : Loose rest)
    (h : Written rest us) : Written (word.toList ++ rest) (wordToken word :: us) :=
  written_word_before hw (fun c hc => (hr c hc).1) h

theorem loose_cons (h : Separates c) : Loose (c :: rest) := by
  rintro d ⟨⟩
  exact h

theorem separates_bracket (h : c ∈ [')', ']', '\x7d', '(', '[', ',', ':']) : Separates c := by
  have hall : ∀ c ∈ [')', ']', '\x7d', '(', '[', ',', ':'],
      Symbol.isNameChar c = false ∧ c ≠ '.' ∧ c ∉ Symbol.operatorChars :=
    forall_mem_of_all (by decide)
  exact hall c h

end Tokens

end BindingLang
