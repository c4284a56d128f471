import BindingLang.Proofs.Token.Quotation
import BindingLang.Proofs.Token.Valid
/-!
  Tiling: how the tokens of a source cover it.

  Each token takes a piece of the source that begins where blanks behind the last
  one end. The piece is what the token is written as, and the token goes no further
  only because its kind cannot: the character behind it belongs to no name, number
  or operator that it would be the beginning of. The scanner stops at the end of the
  source, before a character that begins no token, or with a quotation mark that no
  other closes.

  What is proved:
    1. `cutFrom_of_scan` — what is scanned at the front of any text is cut from it
       whole.
    2. `ofChars_eq_unclosed_iff` — a string has no end just where no mark closes.
    3. `Within.turn` — what one call does to a scanner within its source.
    4. `tokens_tile` — every call of a run, and the calls behind the last token.
-/

namespace BindingLang

open Scan

variable {t : Token} {c : Char} {cs : List Char} {width : Nat}

/-- Whether a token of the kind would go on with the text behind it: a name with a
character of names, digits with a digit, and an integer with a point and a digit. -/
def Token.Kind.GoesOn : Token.Kind → List Char → Prop
  | .identifier, rest | .keyword, rest => ∃ c ∈ rest.head?, Symbol.isNameChar c = true
  | .integer, rest => (∃ c ∈ rest.head?, c.isDigit = true) ∨
      rest.head? = some '.' ∧ ∃ c ∈ rest.tail.head?, c.isDigit = true
  | .decimal, rest | .dot, rest => ∃ c ∈ rest.head?, c.isDigit = true
  | _, _ => False

/-- Whether the token is what the first `width` characters of the text write, and goes
no further. -/
structure Token.Fills (t : Token) (cs : List Char) (width : Nat) : Prop where
  text : t.kind ≠ .string → t.value.toList = cs.take width
  quoted : t.kind = .string → ∃ (q : Quote) (body : List Char),
    cs.take width = q.char :: body ++ [q.char] ∧ t.value.toList = unescaped body
  whole : ¬ t.kind.GoesOn (cs.drop width)
  longest : t.kind = .operator → ∀ symbol, Token.Kind.operator.Spells symbol → symbol <+: cs →
    symbol.length ≤ width

/-- Whether the token is cut off the front of the text, which is `width` characters
and holds at least one. -/
structure Token.CutFrom (t : Token) (cs : List Char) (width : Nat) : Prop extends
    Token.Fills t cs width where
  starts : ∃ c ∈ cs.head?, StartsToken c
  width_pos : 0 < width
  width_le : width ≤ cs.length
  valid : t.Valid

/-! ## What is cut off, scan by scan -/

theorem fills_take {kind : Token.Kind} {count precedence : Nat}
    (h : take kind cs count precedence = .token t width) (hstring : kind ≠ .string)
    (hoperator : kind ≠ .operator) (hwhole : ¬ kind.GoesOn (cs.drop count)) :
    t.Fills cs width := by
  cases h
  exact ⟨fun _ => String.toList_ofList, fun hk => absurd hk hstring, hwhole,
    fun hk => absurd hk hoperator⟩

theorem fills_string {q : Quote} (h : Scan.string q.char cs = .token t width) :
    t.Fills (q.char :: cs) width := by
  obtain ⟨content, count, hread, rfl, rfl⟩ := string_eq_token h
  obtain ⟨k, ⟨⟨hmark, -⟩, -⟩, rfl, rfl⟩ := closes_of_readQuoted hread
  refine ⟨fun hk => absurd rfl hk, fun _ => ⟨q, cs.take k, ?_, String.toList_ofList⟩, nofun, nofun⟩
  rw [List.take_succ_cons, List.take_add_one, hmark, List.cons_append]
  rfl

/-- A name ends where no character of names follows. -/
theorem fills_word (h : word cs = .token t width) : t.Fills cs width := by
  have hend := head_of_drop_takeWhile Symbol.isNameChar cs
  have hnot : ¬ ∃ c ∈ (cs.drop (cs.takeWhile Symbol.isNameChar).length).head?,
      Symbol.isNameChar c = true := by
    rintro ⟨c, hc, hname⟩
    rw [hend c hc] at hname
    cases hname
  simp only [word] at h
  by_cases hk : Symbol.isKeyword (String.ofList (cs.takeWhile Symbol.isNameChar)) = true
  · rw [if_pos hk] at h
    exact fills_take h (by decide) (by decide) hnot
  · rw [if_neg hk] at h
    exact fills_take h (by decide) (by decide) hnot

theorem not_digit_of_drop_digitRun (cs : List Char) :
    ¬ ∃ c ∈ (cs.drop (digitRun cs)).head?, c.isDigit = true := by
  rintro ⟨c, hc, hdigit⟩
  rw [head_of_drop_takeWhile Char.isDigit cs c hc] at hdigit
  cases hdigit

theorem not_digit_of_digitRun (h : digitRun cs = 0) :
    ¬ ∃ c ∈ cs.head?, c.isDigit = true := by
  have hnot := not_digit_of_drop_digitRun cs
  rwa [h, List.drop_zero] at hnot

/-- A number ends behind all its digits, and has a point where digits follow it. -/
theorem fills_number (h : number cs = .token t width) : t.Fills cs width := by
  obtain ⟨hnumber, hplaces⟩ | ⟨rest, hrest, -, hnumber⟩ := number_cases cs
  · rw [hnumber] at h
    refine fills_take h nofun nofun ?_
    rintro (hdigit | ⟨hpoint, hdigit⟩)
    · exact not_digit_of_drop_digitRun cs hdigit
    · obtain ⟨rest, hrest⟩ := List.head?_eq_some_iff.mp hpoint
      rw [hrest] at hdigit
      exact not_digit_of_digitRun (hplaces rest hrest) hdigit
  · rw [hnumber] at h
    refine fills_take h nofun nofun ?_
    rw [Nat.add_assoc, ← List.drop_drop, hrest, Nat.add_comm 1, List.drop_succ_cons]
    exact not_digit_of_drop_digitRun rest

theorem fills_dot (h : dot cs = .token t width) : t.Fills ('.' :: cs) width := by
  obtain ⟨hplaces, hdot⟩ | ⟨-, hdot⟩ := dot_cases cs
  · rw [hdot] at h
    cases h
    exact ⟨fun _ => rfl, nofun, not_digit_of_digitRun hplaces, nofun⟩
  · rw [hdot] at h
    refine fills_take h nofun nofun ?_
    rw [List.drop_succ_cons]
    exact not_digit_of_drop_digitRun cs

/-- A symbol at the front of a text is one of those that the text begins with. -/
theorem beginsWith_of_prefix {symbol : List Char} {symbols : List String}
    (h : String.ofList symbol ∈ symbols) (hfront : symbol <+: cs) :
    beginsWith cs symbol.length symbols = true := by
  rw [beginsWith, List.contains_iff_mem, ← List.prefix_iff_eq_take.mp hfront]
  exact h

/-- No operator at the front is longer than the one that is taken. -/
theorem length_le_operatorWidth {symbol : List Char}
    (hs : Token.Kind.operator.Spells symbol) (hfront : symbol <+: cs) :
    symbol.length ≤ operatorWidth cs := by
  have htriples : ∀ s ∈ Symbol.triples, s.toList.length = 3 := by decide
  have hpairs : ∀ s ∈ Symbol.pairs, s.toList.length = 2 := by decide
  have hpos : 1 ≤ operatorWidth cs := by
    unfold operatorWidth
    split
    · omega
    split <;> omega
  obtain hlong | ⟨c, -, rfl⟩ := hs
  · rcases List.mem_append.mp hlong with htriple | hpair
    · have hlength := htriples _ htriple
      rw [String.toList_ofList] at hlength
      have hbegins := beginsWith_of_prefix htriple hfront
      rw [hlength] at hbegins
      rw [operatorWidth, if_pos hbegins, hlength]
    · have hlength := hpairs _ hpair
      rw [String.toList_ofList] at hlength
      have hbegins := beginsWith_of_prefix hpair hfront
      rw [hlength] at hbegins
      rw [operatorWidth, if_pos hbegins, hlength]
      split <;> omega
  · exact hpos

theorem fills_operator (h : operator cs = .token t width) : t.Fills cs width := by
  cases h
  exact ⟨fun _ => String.toList_ofList, nofun, nofun,
    fun _ symbol hs hfront => length_le_operatorWidth hs hfront⟩

/-- What is scanned at the front of a text is cut off it. -/
theorem cutFrom_of_scan (h : ofChars cs = .token t width) : t.CutFrom cs width := by
  obtain ⟨hpos, hle⟩ := width_bounds_of_scan h
  have hvalid := valid_of_scan h
  cases cs with
  | nil => cases h
  | cons c cs =>
    have hstarts : ∃ d ∈ (c :: cs).head?, StartsToken d := by
      by_contra hnone
      simp only [not_exists, not_and] at hnone
      rw [ofChars_eq_stop_iff.mpr hnone] at h
      cases h
    suffices hfills : t.Fills (c :: cs) width from ⟨hfills, hstarts, hpos, hle, hvalid⟩
    generalize ofChars (c :: cs) = scan, entered c cs = hentered at h
    cases hentered with
    | string first =>
      obtain ⟨q, rfl⟩ := exists_quote first
      exact fills_string h
    | word first => exact fills_word h
    | number first => exact fills_number h
    | dot first =>
      subst first
      exact fills_dot h
    | comma first => exact fills_take h nofun nofun nofun
    | colon first => exact fills_take h nofun nofun nofun
    | operator first => exact fills_operator h
    | grouper first => exact fills_take h nofun nofun nofun
    | stop first => cases h

/-- A string has no end just where no mark closes it. -/
theorem ofChars_eq_unclosed_iff : ofChars cs = .unclosed ↔
    ∃ (q : Quote) (body : List Char), cs = q.char :: body ∧ ∀ k, ¬ ClosesAt q.char body k := by
  constructor
  · intro h
    cases cs with
    | nil => cases h
    | cons c cs =>
      generalize ofChars (c :: cs) = scan, entered c cs = hentered at h
      cases hentered with
      | string first =>
        obtain ⟨q, rfl⟩ := exists_quote first
        refine ⟨q, cs, rfl, not_closes_of_readQuoted ?_⟩
        unfold Scan.string at h
        split at h
        · cases h
        · assumption
      | number first =>
        obtain ⟨hnumber, -⟩ | ⟨rest, -, -, hnumber⟩ := number_cases (c :: cs) <;>
          rw [hnumber] at h <;> cases h
      | dot first =>
        obtain ⟨-, hdot⟩ | ⟨-, hdot⟩ := dot_cases cs <;> rw [hdot] at h <;> cases h
      | _ => cases h
  · rintro ⟨q, body, rfl, hnone⟩
    rw [ofChars, if_pos (isQuote_char q), Scan.string]
    split
    · rename_i content count hread
      obtain ⟨k, hk, -, -⟩ := closes_of_readQuoted hread
      exact absurd hk.1 (hnone k)
    · rfl

/-! ## Calls -/

/-- What a call of `next` does to a scanner within the source: behind blanks it cuts
a token off, or comes to the end or to a character that begins none, or to a
quotation mark that no other closes. -/
inductive Scanner.Turn (source : List Char) (s : Scanner) :
    Except LexError (Option Token) × Scanner → Prop where
  | token {t : Token} {start : Nat} {s' : Scanner} (ahead : s.position ≤ start)
      (blank : ∀ c ∈ source.extract s.position start, Text.isBlank c = true)
      (forward : start < s'.position) (cut : t.CutFrom (source.drop start) (s'.position - start)) :
      Turn source s (.ok (some t), s')
  | ended {s' : Scanner} (ahead : s.position ≤ s'.position)
      (blank : ∀ c ∈ source.extract s.position s'.position, Text.isBlank c = true)
      (last : s'.position = source.length ∨
        ∃ c, source[s'.position]? = some c ∧ ¬ StartsToken c) :
      Turn source s (.ok none, s')
  | unclosed {start : Nat} {s' : Scanner} (ahead : s.position ≤ start)
      (blank : ∀ c ∈ source.extract s.position start, Text.isBlank c = true) (q : Quote)
      (mark : source[start]? = some q.char) (none : ∀ j, ¬ Closes source q.char start j) :
      Turn source s (.error (.unterminatedString start), s')

theorem Scanner.Within.turn {s : Scanner} {source : List Char} (h : s.Within source) :
    s.Turn source s.next := by
  have hskip := h.skipBlanks
  have hahead : s.position ≤ s.skipBlanks.position := Nat.le_add_right _ _
  cases hscan : Scan.ofChars s.skipBlanks.rest with
  | token t width =>
    have hcut := cutFrom_of_scan hscan
    have hpos := hcut.width_pos
    rw [next_of_token hscan]
    refine .token hahead h.skipped_blank (Nat.lt_add_of_pos_right hpos) ?_
    rw [Nat.add_sub_cancel_left, ← hskip.rest_eq]
    exact hcut
  | stop =>
    rw [next_of_stop hscan]
    refine .ended hahead h.skipped_blank ?_
    rcases Nat.eq_or_lt_of_le hskip.position_le with hend | hlt
    · exact Or.inl hend
    · have hnone := ofChars_eq_stop_iff.mp hscan
      rw [hskip.rest_eq, List.head?_drop, List.getElem?_eq_getElem hlt] at hnone
      exact Or.inr ⟨_, List.getElem?_eq_getElem hlt, hnone _ rfl⟩
  | unclosed =>
    obtain ⟨q, body, hrest, hnone⟩ := ofChars_eq_unclosed_iff.mp hscan
    rw [hskip.rest_eq] at hrest
    have hmark : source[s.skipBlanks.position]? = some q.char := by
      rw [← List.head?_drop, hrest]
      rfl
    have hbody : source.drop (s.skipBlanks.position + 1) = body := by
      rw [← List.drop_drop, hrest]
      rfl
    rw [next_of_unclosed hscan]
    refine .unclosed hahead h.skipped_blank q hmark ?_
    intro j hcloses
    obtain ⟨k, -, hk⟩ := closes_iff.mp hcloses
    rw [hbody] at hk
    exact hnone k hk

/-- After any number of calls a scanner stands within its source, and the next call
takes a turn: it cuts a token off behind blanks, comes to the end just if no token
begins behind them, and fails just if a quotation mark stands there that no other
closes. Behind the end and behind a failure no call delivers anything. -/
theorem tokens_tile (source : String) (calls : Nat) :
    (Scanner.after source calls).Within source.toList ∧
    (Scanner.after source calls).Turn source.toList (Scanner.after source calls).next ∧
    ((Scanner.after source calls).next.1 = .ok none ↔
      ∀ c ∈ (Text.trimStart (source.toList.drop (Scanner.after source calls).position)).head?,
        ¬ StartsToken c) ∧
    ((∃ e, (Scanner.after source calls).next.1 = .error e) ↔
      ∃ (q : Quote) (body : List Char),
        Text.trimStart (source.toList.drop (Scanner.after source calls).position) =
          q.char :: body ∧ ∀ k, ¬ ClosesAt q.char body k) ∧
    ((∀ t, (Scanner.after source calls).next.1 ≠ .ok (some t)) →
      ∀ more, (Scanner.after source (calls + 1 + more)).next.1 = .ok none) := by
  have hwithin := Scanner.within_after source calls
  have hrest : Text.trimStart (source.toList.drop (Scanner.after source calls).position) =
      (Scanner.after source calls).skipBlanks.rest := by
    rw [← hwithin.rest_eq]
    rfl
  refine ⟨hwithin, hwithin.turn, ?_, ?_, Scanner.stopped_after⟩
  · rw [hrest, ← ofChars_eq_stop_iff]
    cases hscan : ofChars (Scanner.after source calls).skipBlanks.rest with
    | token t width => rw [Scanner.next_of_token hscan]; exact ⟨nofun, nofun⟩
    | stop => rw [Scanner.next_of_stop hscan]; exact ⟨fun _ => rfl, fun _ => rfl⟩
    | unclosed => rw [Scanner.next_of_unclosed hscan]; exact ⟨nofun, nofun⟩
  · rw [hrest, ← ofChars_eq_unclosed_iff]
    cases hscan : ofChars (Scanner.after source calls).skipBlanks.rest with
    | token t width => rw [Scanner.next_of_token hscan]; exact ⟨nofun, nofun⟩
    | stop => rw [Scanner.next_of_stop hscan]; exact ⟨nofun, nofun⟩
    | unclosed => rw [Scanner.next_of_unclosed hscan]; exact ⟨fun _ => rfl, fun _ => ⟨_, rfl⟩⟩

end BindingLang
