import BindingLang.Proofs.Token.Valid
/-!
  Writing tokens: scanning undoes it.

  A token is written as its text, a string in quotes. Written tokens are kept
  apart by one space each, which no token goes on with, so the scanner cuts the
  text just where it was put together.

  What is proved:
    1. `scan_chars` — the text of a valid token scans to the token.
    2. `written_spaced` — so do the texts of valid tokens with spaces between.
    3. `stream_spaced_iff` — the tokens that come back from their texts are the
       valid ones, and the scanner returns no others.
-/

namespace BindingLang

/-- The text of a token, a string in the quotation mark `q`. -/
def Token.chars (q : Quote) (t : Token) : List Char :=
  if t.kind = .string then quoted q t.value.toList else t.value.toList

/-- The texts of tokens with a space between each two, every string in the
quotation mark beside it. -/
def spaced (ts : List (Quote × Token)) : List Char :=
  [' '].intercalate (ts.map fun t => t.2.chars t.1)

open Scan

variable {t : Token} {ts : List (Quote × Token)} {cs : List Char}

theorem chars_string (q : Quote) (content : String) (precedence : Nat) :
    Token.chars q ⟨.string, content, precedence⟩ = quoted q content.toList := rfl

theorem chars_of_ne_string (q : Quote) (h : t.kind ≠ .string) : t.chars q = t.value.toList :=
  if_neg h

/-- A point with digits behind it, and none before it, is a decimal as well. -/
theorem scan_fraction (h : IsDigits cs) :
    ofChars ('.' :: cs) =
      .token ⟨.decimal, String.ofList ('.' :: cs), 0⟩ ('.' :: cs).length := by
  have hrun : digitRun cs = cs.length := digitRun_eq h.2
  have hne : ¬ cs.length = 0 := by
    rw [List.length_eq_zero_iff]
    exact h.1
  show dot cs = _
  simp only [dot, hrun, if_neg hne, Scan.take, List.length_cons]
  rw [← List.length_cons (a := '.'), List.take_length]

/-- A single character of operators, at the end of a text, is an operator. -/
theorem scan_operatorChar {c : Char} (h : c ∈ Symbol.operatorChars) :
    ofChars [c] = .token ⟨.operator, String.ofList [c], Symbol.precedence (String.ofList [c])⟩ 1 := by
  have hall : ∀ c ∈ Symbol.operatorChars, ofChars [c] =
      .token ⟨.operator, String.ofList [c], Symbol.precedence (String.ofList [c])⟩ 1 :=
    forall_mem_of_all (by decide)
  exact hall c h

theorem scan_longOperator {operator : String} (h : operator ∈ Symbol.triples ++ Symbol.pairs) :
    ofChars operator.toList =
      .token ⟨.operator, operator, Symbol.precedence operator⟩ operator.toList.length := by
  revert operator
  decide

/-- The text of a valid token scans to the token. -/
theorem scan_chars (q : Quote) (h : t.Valid) :
    ofChars (t.chars q) = .token t (t.chars q).length := by
  obtain ⟨kind, value, precedence⟩ := t
  obtain ⟨hs, hp⟩ := h
  simp only at hs hp
  subst hp
  by_cases hstring : kind = .string
  · subst hstring
    rw [chars_string, scan_quoted, String.ofList_toList]
    rfl
  rw [chars_of_ne_string q hstring]
  obtain ⟨cs, rfl⟩ : ∃ cs, value = String.ofList cs := ⟨value.toList, String.ofList_toList.symm⟩
  simp only [String.toList_ofList] at hs ⊢
  cases kind with
  | string => exact absurd rfl hstring
  | identifier =>
    rw [scan_word hs.1, hs.2]
    rfl
  | keyword =>
    rw [scan_word hs.1, hs.2]
    rfl
  | integer => exact scan_digits hs
  | decimal =>
    obtain ⟨whole, places, hw, hplaces, rfl⟩ := hs
    -- The scanner comes to the point by the digits before it, where there are any.
    by_cases hne : whole = []
    · subst hne
      exact scan_fraction hplaces
    · exact scan_decimal ⟨hne, hw⟩ hplaces
  | dot =>
    cases hs
    exact scan_dot (by simp)
  | comma =>
    cases hs
    exact scan_comma []
  | colon =>
    cases hs
    exact scan_colon []
  | grouper =>
    obtain ⟨c, hc, rfl⟩ := hs
    exact scan_bracket hc []
  | operator =>
    obtain hlong | ⟨c, hc, rfl⟩ := hs
    · have hscan := scan_longOperator hlong
      rwa [String.toList_ofList] at hscan
    · exact scan_operatorChar hc

theorem chars_ne_nil (q : Quote) (h : t.Valid) : t.chars q ≠ [] := by
  intro hnil
  have hscan := scan_chars q h
  rw [hnil] at hscan
  cases hscan

/-- Valid tokens with spaces between them are written. -/
theorem written_spaced (h : ∀ t ∈ ts, t.2.Valid) : Written (spaced ts) (ts.map Prod.snd) := by
  induction ts with
  | nil => exact .nil
  | cons t ts ih =>
    have ht := h t List.mem_cons_self
    have hrest := ih fun u hu => h u (List.mem_cons_of_mem _ hu)
    have hscan := scan_chars t.1 ht
    have hne := chars_ne_nil t.1 ht
    cases ts with
    | nil =>
      have hlast := Written.cons hne hscan (by simp [Loose]) Written.nil
      simpa [spaced] using hlast
    | cons u us =>
      have hspace : Loose (' ' :: spaced (u :: us)) :=
        loose_cons (separates_of_isBlank (by decide))
      have hmore := Written.cons hne hscan hspace (.blank (by decide) hrest)
      simpa [spaced] using hmore

/-- Tokens with spaces between them scan to the same tokens, and then to the end,
just if they are valid; and every token that comes out of any source is. -/
theorem stream_spaced_iff :
    (∀ ts : List (Quote × Token),
      Token.Stream.ofText (String.ofList (spaced ts)) = ⟨ts.map Prod.snd, none⟩ ↔
        ∀ t ∈ ts, t.2.Valid) ∧
      ∀ (source : String) (t : Token), t ∈ (Token.Stream.ofText source).tokens → t.Valid := by
  refine ⟨fun ts => ⟨?_, ?_⟩, fun source t ht => valid_of_mem_stream ht⟩
  · intro hstream t ht
    apply valid_of_mem_stream
    rw [hstream]
    exact List.mem_map_of_mem ht
  · intro hvalid
    apply Written.stream_eq
    rw [String.toList_ofList]
    exact written_spaced hvalid

/-- A token of each kind, the dot and two decimals that could be taken for one
number among them. -/
def sampleTokens : List (Quote × Token) :=
  [(.single, ⟨.string, "it's a \"\\\"", 0⟩), (.double, ⟨.identifier, "$a1", 0⟩),
    (.double, ⟨.keyword, "this", 0⟩), (.double, ⟨.integer, "007", 0⟩),
    (.double, ⟨.dot, ".", 11⟩), (.double, ⟨.decimal, ".5", 0⟩), (.double, ⟨.decimal, "1.5", 0⟩),
    (.double, ⟨.comma, ",", 0⟩), (.double, ⟨.colon, ":", 0⟩), (.double, ⟨.grouper, "[", 11⟩),
    (.double, ⟨.operator, "!==", 7⟩), (.double, ⟨.operator, "=", 0⟩)]

/-- They are valid, so they come back; and what comes back out of `a.5` is. -/
theorem stream_spaced_sample :
    (∀ t ∈ sampleTokens, t.2.Valid) ∧
      Token.Stream.ofText (String.ofList (spaced sampleTokens)) =
        ⟨sampleTokens.map Prod.snd, none⟩ ∧
      (⟨.decimal, ".5", 0⟩ : Token) ∈ (Token.Stream.ofText "a.5").tokens ∧
      (⟨.decimal, ".5", 0⟩ : Token).Valid := by
  have hvalid : ∀ t ∈ sampleTokens, t.2.Valid := by decide
  have hmem : (⟨.decimal, ".5", 0⟩ : Token) ∈ (Token.Stream.ofText "a.5").tokens := by
    decide
  exact ⟨hvalid, (stream_spaced_iff.1 sampleTokens).mpr hvalid, hmem,
    stream_spaced_iff.2 "a.5" _ hmem⟩

end BindingLang
