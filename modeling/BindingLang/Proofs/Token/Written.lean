import BindingLang.Token.Scanner
/-!
  Written text: a source that the scanner reads to its end.

  `Written cs ts` holds if the scanner takes the whole of `cs`, and delivers
  the tokens `ts`. Text is put together from written pieces: a token may be
  followed by any text that begins with a separator, a character that no token
  goes on with.

  What is proved:
    1. `Scan.ofChars_append` — a separator behind a token does not change it.
    2. `Written.append` — written texts with a separator between them are
       written, with the tokens of both.
    3. `Written.stream_eq` — a written text scans to its tokens.
-/

namespace BindingLang

/-- Whether no token goes on with the character, unless in quotes. -/
def Separates (c : Char) : Prop :=
  Symbol.isNameChar c = false ∧ c ≠ '.' ∧ c ∉ Symbol.operatorChars

/-- Whether the text is empty or begins with a separator. -/
def Loose (cs : List Char) : Prop := ∀ c ∈ cs.head?, Separates c

/-- The scanner takes the text to its end, and delivers the tokens. -/
inductive Written : List Char → List Token → Prop where
  | nil : Written [] []
  | blank {c : Char} {cs : List Char} {ts : List Token} (blank : Text.isBlank c = true)
      (rest : Written cs ts) : Written (c :: cs) ts
  | token {cs rest : List Char} {t : Token} {ts : List Token} (nonempty : cs ≠ [])
      (scan : Scan.ofChars (cs ++ rest) = .token t cs.length) (tail : Written rest ts) :
      Written (cs ++ rest) (t :: ts)

/-- What is to hold of the characters of a list is checked one by one. -/
theorem forall_mem_of_all {p : Char → Prop} [DecidablePred p] {cs : List Char}
    (h : cs.all (fun c => decide (p c)) = true) : ∀ c ∈ cs, p c := by
  intro c hc
  exact of_decide_eq_true (List.all_eq_true.mp h c hc)

section Blank

variable {c : Char}

/-- A letter lies in one of the two alphabets. -/
theorem toNat_of_isAlpha (h : c.isAlpha = true) :
    (65 ≤ c.toNat ∧ c.toNat ≤ 90) ∨ (97 ≤ c.toNat ∧ c.toNat ≤ 122) := by
  have hcase : c.isUpper = true ∨ c.isLower = true := (Bool.or_eq_true _ _).mp h
  obtain hupper | hlower := hcase
  · have hbounds : c.val ≥ 'A'.val ∧ c.val ≤ 'Z'.val := of_decide_eq_true hupper
    exact Or.inl ⟨UInt32.le_iff_toNat_le.mp hbounds.1, UInt32.le_iff_toNat_le.mp hbounds.2⟩
  · have hbounds := (Bool.and_eq_true _ _).mp hlower
    exact Or.inr ⟨UInt32.le_iff_toNat_le.mp (of_decide_eq_true hbounds.1),
      UInt32.le_iff_toNat_le.mp (of_decide_eq_true hbounds.2)⟩

theorem toNat_of_isDigit (h : c.isDigit = true) : 48 ≤ c.toNat ∧ c.toNat ≤ 57 :=
  Char.isDigit_iff_toNat.mp h

theorem isNameChar_of_isDigit (h : c.isDigit = true) : Symbol.isNameChar c = true := by
  simp [Symbol.isNameChar, Char.isAlphanum, h]

theorem isNameChar_of_isNameStart (h : Symbol.isNameStart c = true) :
    Symbol.isNameChar c = true := by
  simp only [Symbol.isNameStart, Bool.or_eq_true] at h
  simp only [Symbol.isNameChar, Char.isAlphanum, Bool.or_eq_true]
  obtain (h | h) | h := h
  · exact Or.inl (Or.inl (Or.inl h))
  · exact Or.inl (Or.inr h)
  · exact Or.inr h

theorem isDigit_of_separates (h : Separates c) : c.isDigit = false := by
  rw [← Bool.not_eq_true]
  intro hd
  have := isNameChar_of_isDigit hd
  rw [h.1] at this
  cases this

/-- A blank is none of the characters of tokens. -/
theorem separates_of_isBlank (h : Text.isBlank c = true) : Separates c := by
  refine ⟨?_, ?_, ?_⟩
  · rw [← Bool.not_eq_true]
    intro hn
    simp [Text.isBlank] at h
    simp only [Symbol.isNameChar, Char.isAlphanum, Bool.or_eq_true, beq_iff_eq] at hn
    obtain ((halpha | hdigit) | rfl) | rfl := hn
    · have hbounds := toNat_of_isAlpha halpha
      omega
    · have hbounds := toNat_of_isDigit hdigit
      omega
    · simp at h
    · simp at h
  · rintro rfl
    revert h
    decide
  · intro hm
    have hall : ∀ c ∈ Symbol.operatorChars, Text.isBlank c = false :=
      forall_mem_of_all (by decide)
    rw [hall c hm] at h
    cases h

theorem ofChars_of_isBlank {cs : List Char} (h : Text.isBlank c = true) :
    Scan.ofChars (c :: cs) = .stop := by
  have hsep := separates_of_isBlank h
  have hstart : ¬ Symbol.isNameStart c = true := by
    intro hs
    have := isNameChar_of_isNameStart hs
    rw [hsep.1] at this
    cases this
  have hne : ∀ d, Text.isBlank d = false → c ≠ d := by
    rintro d hd rfl
    rw [h] at hd
    cases hd
  have hgroup : ∀ d ∈ Symbol.grouperChars, Text.isBlank d = false :=
    forall_mem_of_all (by decide)
  have hg : Symbol.grouperChars.contains c = false := by
    rw [← Bool.not_eq_true]
    intro hm
    exact hne c (hgroup c (List.contains_iff_mem.mp hm)) rfl
  have ho : Symbol.operatorChars.contains c = false := by
    rw [← Bool.not_eq_true]
    intro hm
    exact hsep.2.2 (List.contains_iff_mem.mp hm)
  rw [Scan.ofChars]
  rw [if_neg (by rintro (rfl | rfl) <;> revert h <;> decide), if_neg hstart,
    if_neg (by rw [isDigit_of_separates hsep]; decide), if_neg hsep.2.1,
    if_neg (hne ',' (by decide)), if_neg (hne ':' (by decide)),
    if_neg (by rw [ho]; decide), if_neg (by rw [hg]; decide)]

end Blank

section Append

variable {cs ds : List Char} {b : Char}

theorem takeWhile_append_of_stop {p : Char → Bool} (hb : p b = false) :
    (cs ++ b :: ds).takeWhile p = cs.takeWhile p := by
  rw [List.takeWhile_append]
  split
  · -- All of the first text is taken, and then the stop ends it.
    rename_i hlen
    have htake : cs.takeWhile p = cs := (List.takeWhile_prefix p).eq_of_length hlen
    rw [List.takeWhile_cons, hb, htake]
    exact List.append_nil cs
  · rfl

theorem readQuoted_close (q : Char) (rest : List Char) :
    readQuoted q (q :: rest) = some ([], 1) := by
  cases rest with
  | nil => simp [readQuoted]
  | cons c rest => simp [readQuoted]

theorem readQuoted_escape {q : Char} (hq : '\\' ≠ q) (c : Char) (rest : List Char) :
    readQuoted q ('\\' :: c :: rest) =
      (readQuoted q rest).map fun r => (unescape c :: r.1, r.2 + 2) := by
  simp [readQuoted, hq]

theorem readQuoted_plain {q c : Char} (hq : c ≠ q) (hb : c ≠ '\\') (rest : List Char) :
    readQuoted q (c :: rest) = (readQuoted q rest).map fun r => (c :: r.1, r.2 + 1) := by
  cases rest with
  | nil => simp [readQuoted, hq, hb]
  | cons d rest => simp [readQuoted, hq, hb]

/-- What is read in quotes does not depend on the text behind them. -/
theorem readQuoted_append {q : Char} {content : List Char} {width : Nat}
    (h : readQuoted q cs = some (content, width)) (more : List Char) :
    readQuoted q (cs ++ more) = some (content, width) ∧ width ≤ cs.length := by
  induction cs using readQuoted.induct q generalizing content width with
  | case1 => cases h
  | case2 rest =>
    rw [readQuoted_close] at h
    cases h
    exact ⟨readQuoted_close q _, Nat.succ_le_succ (Nat.zero_le _)⟩
  | case3 hne => simp [readQuoted, hne] at h
  | case4 escaped rest hne ih =>
    rw [readQuoted_escape hne] at h
    obtain ⟨⟨inner, count⟩, hr, heq⟩ := Option.map_eq_some_iff.mp h
    cases heq
    obtain ⟨hr, hw⟩ := ih hr
    refine ⟨?_, ?_⟩
    · rw [List.cons_append, List.cons_append, readQuoted_escape hne, hr]
      rfl
    · simp only [List.length_cons]
      omega
  | case5 c rest hq hne ih =>
    rw [readQuoted_plain hq hne] at h
    obtain ⟨⟨inner, count⟩, hr, heq⟩ := Option.map_eq_some_iff.mp h
    cases heq
    obtain ⟨hr, hw⟩ := ih hr
    refine ⟨?_, ?_⟩
    · rw [List.cons_append, readQuoted_plain hq hne, hr]
      rfl
    · simp only [List.length_cons]
      omega

open Scan

theorem take_append {kind : Token.Kind} {width precedence : Nat} (h : width ≤ cs.length) :
    take kind (cs ++ ds) width precedence = take kind cs width precedence := by
  rw [take, List.take_append_of_le_length h, ← take]

theorem digitRun_append (hb : b.isDigit = false) : digitRun (cs ++ b :: ds) = digitRun cs := by
  rw [digitRun, takeWhile_append_of_stop hb, ← digitRun]

theorem digitRun_le : digitRun cs ≤ cs.length := (List.takeWhile_prefix _).length_le

theorem word_append (hb : Symbol.isNameChar b = false) : word (cs ++ b :: ds) = word cs := by
  have hle : (cs.takeWhile Symbol.isNameChar).length ≤ cs.length :=
    (List.takeWhile_prefix _).length_le
  simp only [word, takeWhile_append_of_stop hb, take_append hle]

theorem dot_append (hb : b.isDigit = false) : dot (cs ++ b :: ds) = dot cs := by
  simp only [dot, digitRun_append hb]
  split
  · rfl
  · rw [← List.cons_append, take_append]
    have := @digitRun_le cs
    simp only [List.length_cons]
    omega

theorem number_append (hb : b.isDigit = false) (hdot : b ≠ '.') :
    number (cs ++ b :: ds) = number cs := by
  have hle := @digitRun_le cs
  have hinteger : take .integer (cs ++ b :: ds) (digitRun cs) 0 =
      take .integer cs (digitRun cs) 0 := take_append hle
  simp only [number, digitRun_append hb, List.drop_append_of_le_length hle]
  cases hdrop : cs.drop (digitRun cs) with
  | nil =>
    rw [List.nil_append]
    split
    · rename_i heq
      cases heq
      exact absurd rfl hdot
    · exact hinteger
  | cons c rest =>
    have hlen : rest.length + 1 = cs.length - digitRun cs := by
      rw [← List.length_cons (a := c), ← hdrop, List.length_drop]
    have hrest := @digitRun_le rest
    rw [List.cons_append]
    by_cases hc : c = '.'
    · subst hc
      simp only [digitRun_append hb]
      split
      · exact hinteger
      · exact take_append (by omega)
    · split
      · rename_i heq
        cases heq
        exact absurd rfl hc
      · split
        · rename_i heq
          cases heq
          exact absurd rfl hc
        · exact hinteger

/-- Whether a text begins with one of some symbols does not depend on what
comes behind a character that is in none of them. -/
theorem beginsWith_append {width : Nat} {symbols : List String}
    (hall : ∀ s ∈ symbols,
      s.toList.length = width ∧ s.toList.all Symbol.operatorChars.contains = true)
    (hb : b ∉ Symbol.operatorChars) :
    beginsWith (cs ++ b :: ds) width symbols = beginsWith cs width symbols := by
  by_cases hw : width ≤ cs.length
  · rw [beginsWith, List.take_append_of_le_length hw, ← beginsWith]
  -- The text is too short for the symbols, and the longer one has `b` in the way.
  have hleft : beginsWith (cs ++ b :: ds) width symbols = false := by
    rw [← Bool.not_eq_true, beginsWith, List.contains_iff_mem]
    intro hmem
    refine hb (List.contains_iff_mem.mp (List.all_eq_true.mp (hall _ hmem).2 b ?_))
    rw [String.toList_ofList, List.take_append, List.take_cons (by omega)]
    exact List.mem_append_right _ List.mem_cons_self
  have hright : beginsWith cs width symbols = false := by
    rw [← Bool.not_eq_true, beginsWith, List.contains_iff_mem]
    intro hmem
    have hlen := (hall _ hmem).1
    rw [String.toList_ofList, List.length_take] at hlen
    omega
  rw [hleft, hright]

theorem length_of_beginsWith {width : Nat} {symbols : List String}
    (hall : ∀ s ∈ symbols, s.toList.length = width) (h : beginsWith cs width symbols = true) :
    width ≤ cs.length := by
  rw [beginsWith, List.contains_iff_mem] at h
  have hlen := hall _ h
  rw [String.toList_ofList, List.length_take] at hlen
  omega

theorem operatorWidth_append (hb : b ∉ Symbol.operatorChars) :
    operatorWidth (cs ++ b :: ds) = operatorWidth cs := by
  rw [operatorWidth, beginsWith_append (by decide) hb, beginsWith_append (by decide) hb,
    ← operatorWidth]

theorem operatorWidth_le (hne : cs ≠ []) : operatorWidth cs ≤ cs.length := by
  unfold operatorWidth
  split
  · rename_i h
    exact length_of_beginsWith (by decide) h
  split
  · rename_i h
    exact length_of_beginsWith (by decide) h
  · exact List.length_pos_iff.mpr hne

theorem operator_append (hne : cs ≠ []) (hb : b ∉ Symbol.operatorChars) :
    operator (cs ++ b :: ds) = operator cs := by
  have hle := operatorWidth_le hne
  simp only [operator, operatorWidth_append hb, take_append hle,
    List.take_append_of_le_length hle]

/-- A token is not changed by a separator behind it, whatever follows. -/
theorem Scan.ofChars_append {t : Token} {width : Nat} (h : ofChars cs = .token t width)
    (hb : Separates b) : ofChars (cs ++ b :: ds) = .token t width := by
  have hdigit := isDigit_of_separates hb
  obtain ⟨hname, hdot, hoperator⟩ := hb
  cases cs with
  | nil => cases h
  | cons c rest =>
    rw [List.cons_append]
    -- The first character tells which scan it is, and is the same on both sides.
    rw [ofChars] at h ⊢
    by_cases hq : c = '"' ∨ c = '\''
    · rw [if_pos hq] at h ⊢
      unfold Scan.string at h ⊢
      split at h
      · rename_i content count hr
        rw [(readQuoted_append hr _).1]
        exact h
      · cases h
    rw [if_neg hq] at h ⊢
    by_cases hs : Symbol.isNameStart c = true
    · rw [if_pos hs] at h ⊢
      rw [← h, ← List.cons_append, word_append hname]
    rw [if_neg hs] at h ⊢
    by_cases hd : c.isDigit = true
    · rw [if_pos hd] at h ⊢
      rw [← h, ← List.cons_append, number_append hdigit hdot]
    rw [if_neg hd] at h ⊢
    by_cases hp : c = '.'
    · rw [if_pos hp] at h ⊢
      rw [← h, dot_append hdigit]
    rw [if_neg hp] at h ⊢
    by_cases hcomma : c = ','
    · rw [if_pos hcomma] at h ⊢
      rw [← h, ← List.cons_append, take_append (by simp)]
    rw [if_neg hcomma] at h ⊢
    by_cases hcolon : c = ':'
    · rw [if_pos hcolon] at h ⊢
      rw [← h, ← List.cons_append, take_append (by simp)]
    rw [if_neg hcolon] at h ⊢
    by_cases ho : Symbol.operatorChars.contains c = true
    · rw [if_pos ho] at h ⊢
      rw [← h, ← List.cons_append, operator_append (by simp) hoperator]
    rw [if_neg ho] at h ⊢
    by_cases hg : Symbol.grouperChars.contains c = true
    · rw [if_pos hg] at h ⊢
      rw [← h, ← List.cons_append, take_append (by simp)]
    · rw [if_neg hg] at h
      cases h

end Append

namespace Written

variable {cs ds rest : List Char} {ts us : List Token} {t : Token} {b c : Char}

/-- Written texts are put together where the second begins with a separator. -/
theorem append (h : Written cs ts) (hb : Separates b) (h' : Written (b :: ds) us) :
    Written (cs ++ b :: ds) (ts ++ us) := by
  induction h with
  | nil => exact h'
  | blank hblank rest ih => exact .blank hblank ih
  | token nonempty scan tail ih =>
    rw [List.append_assoc]
    refine .token nonempty ?_ ih
    rw [← List.append_assoc]
    exact Scan.ofChars_append scan hb

/-- A token and a text behind it that does not run into it. -/
theorem cons (hne : cs ≠ []) (scan : Scan.ofChars cs = .token t cs.length) (hr : Loose rest)
    (h : Written rest ts) : Written (cs ++ rest) (t :: ts) := by
  refine .token hne ?_ h
  cases rest with
  | nil => rw [List.append_nil]; exact scan
  | cons b rest => exact Scan.ofChars_append scan (hr b rfl)

/-- Any number of blanks may stand before a text. -/
theorem blanks {bs : List Char} (hbs : ∀ c ∈ bs, Text.isBlank c = true) (h : Written cs ts) :
    Written (bs ++ cs) ts := by
  induction bs with
  | nil => exact h
  | cons c bs ih =>
    refine .blank (hbs c List.mem_cons_self) (ih ?_)
    intro d hd
    exact hbs d (List.mem_cons_of_mem _ hd)

theorem next_blank {position mark : Nat} (hc : Text.isBlank c = true) :
    Scanner.next ⟨c :: cs, position, mark⟩ = Scanner.next ⟨cs, position + 1, mark⟩ := by
  have hskip : Scanner.skipBlanks ⟨c :: cs, position, mark⟩ =
      Scanner.skipBlanks ⟨cs, position + 1, mark⟩ := by
    simp only [Scanner.skipBlanks, Text.trimStart, List.takeWhile_cons, List.dropWhile_cons, hc,
      if_true, List.length_cons]
    rw [show position + ((cs.takeWhile Text.isBlank).length + 1) =
      position + 1 + (cs.takeWhile Text.isBlank).length by omega]
  simp only [Scanner.next, hskip]

theorem skipBlanks_of_scan {position mark width : Nat} (h : Scan.ofChars cs = .token t width) :
    Scanner.skipBlanks ⟨cs, position, mark⟩ = ⟨cs, position, position⟩ := by
  cases cs with
  | nil => cases h
  | cons c cs =>
    have hc : Text.isBlank c = false := by
      rw [← Bool.not_eq_true]
      intro hc
      rw [ofChars_of_isBlank hc] at h
      cases h
    simp [Scanner.skipBlanks, Text.trimStart, hc]

/-- A scanner before a written text delivers its tokens and comes to the end. -/
theorem streamWithin_eq (h : Written cs ts) {fuel : Nat} (hfuel : cs.length < fuel)
    (position mark : Nat) : Scanner.streamWithin fuel ⟨cs, position, mark⟩ = ⟨ts, none⟩ := by
  induction h generalizing fuel position mark with
  | nil =>
    obtain ⟨n, rfl⟩ : ∃ n, fuel = n + 1 := ⟨fuel - 1, by omega⟩
    rfl
  | blank hc rest ih =>
    -- Blanks are skipped within one call, which takes one of the fuel.
    obtain ⟨n, rfl⟩ : ∃ n, fuel = n + 1 := ⟨fuel - 1, by omega⟩
    rw [List.length_cons] at hfuel
    have hrest := @ih (n + 1) (by omega) (position + 1) mark
    rw [Scanner.streamWithin] at hrest ⊢
    rw [next_blank hc]
    exact hrest
  | @token cs rest t ts nonempty scan tail ih =>
    obtain ⟨n, rfl⟩ : ∃ n, fuel = n + 1 := ⟨fuel - 1, by omega⟩
    have hpos := List.length_pos_iff.mpr nonempty
    rw [List.length_append] at hfuel
    have hnext : Scanner.next ⟨cs ++ rest, position, mark⟩ = (.ok (some t),
        ⟨rest, position + cs.length, position + cs.length⟩) := by
      simp only [Scanner.next, skipBlanks_of_scan scan, scan, List.drop_left]
    rw [Scanner.streamWithin, hnext]
    simp only [@ih n (by omega)]

theorem stream_eq {source : String} (h : Written source.toList ts) :
    Token.Stream.ofText source = ⟨ts, none⟩ :=
  h.streamWithin_eq (Nat.lt_succ_self _) 0 0

end Written

end BindingLang
