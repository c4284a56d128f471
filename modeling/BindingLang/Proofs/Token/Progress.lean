import BindingLang.Proofs.Token.Written
/-!
  Progress: each token takes something of the source, so a scanner comes to its
  end.

  The first character of a text tells which kind of token is read there. Every
  token is at least one character wide, and no wider than the text. The walk over
  a source is bounded by fuel: a scanner delivers its whole stream with one call
  more than there are characters ahead, and no more than that with more calls.

  What is proved:
    1. `entered`, `ofChars_eq_stop_iff` — what is read behind each first
       character, and where nothing is.
    2. `width_bounds_of_scan` — no token is written as nothing, and none takes more
       than there is.
    3. `streamWithin_eq_stream` — the stream of a scanner does not depend on the
       fuel, if it exceeds the characters ahead.
-/

namespace BindingLang

open Scan

variable {t : Token} {c : Char} {cs : List Char} {width : Nat}

/-- A token taken from the front is as wide as what is taken. -/
theorem width_of_take {kind : Token.Kind} {count precedence : Nat}
    (h : take kind cs count precedence = .token t width) : width = count := by
  cases h
  rfl

/-! ## Runs of characters -/

theorem take_length_takeWhile (p : Char → Bool) (cs : List Char) :
    cs.take (cs.takeWhile p).length = cs.takeWhile p :=
  (List.prefix_iff_eq_take.mp (List.takeWhile_prefix p)).symm

theorem drop_length_takeWhile (p : Char → Bool) (cs : List Char) :
    cs.drop (cs.takeWhile p).length = cs.dropWhile p := by
  calc cs.drop (cs.takeWhile p).length
      = (cs.takeWhile p ++ cs.dropWhile p).drop (cs.takeWhile p).length := by
        rw [List.takeWhile_append_dropWhile]
    _ = cs.dropWhile p := List.drop_left

/-- A run ends where its kind of character does. -/
theorem head_of_drop_takeWhile (p : Char → Bool) (cs : List Char) :
    ∀ c ∈ (cs.drop (cs.takeWhile p).length).head?, p c = false := by
  intro c hc
  have hnot := List.head?_dropWhile_not p cs
  rw [drop_length_takeWhile] at hc
  rw [Option.mem_def.mp hc] at hnot
  exact hnot

/-! ## What is read behind the first character -/

/-- Whether a token begins with the character. -/
def StartsToken (c : Char) : Prop :=
  (c = '"' ∨ c = '\'') ∨ Symbol.isNameStart c = true ∨ c.isDigit = true ∨ c = '.' ∨ c = ',' ∨
    c = ':' ∨ c ∈ Symbol.operatorChars ∨ c ∈ Symbol.grouperChars

instance : DecidablePred StartsToken := fun c =>
  inferInstanceAs (Decidable ((c = '"' ∨ c = '\'') ∨ Symbol.isNameStart c = true ∨
    c.isDigit = true ∨ c = '.' ∨ c = ',' ∨ c = ':' ∨ c ∈ Symbol.operatorChars ∨
    c ∈ Symbol.grouperChars))

/-- What may be read at the front of `c :: cs`, told by the first character. -/
inductive Entered (c : Char) (cs : List Char) : Scan → Prop where
  | string (first : c = '"' ∨ c = '\'') : Entered c cs (Scan.string c cs)
  | word (first : Symbol.isNameStart c = true) : Entered c cs (word (c :: cs))
  | number (first : c.isDigit = true) : Entered c cs (number (c :: cs))
  | dot (first : c = '.') : Entered c cs (dot cs)
  | comma (first : c = ',') : Entered c cs (take .comma (c :: cs) 1 0)
  | colon (first : c = ':') : Entered c cs (take .colon (c :: cs) 1 0)
  | operator (first : c ∈ Symbol.operatorChars) : Entered c cs (operator (c :: cs))
  | grouper (first : c ∈ Symbol.grouperChars) :
    Entered c cs (take .grouper (c :: cs) 1 (Symbol.precedence (String.ofList [c])))
  | stop (first : ¬ StartsToken c) : Entered c cs .stop

/-- What is read at the front of a text is what its first character tells. -/
theorem entered (c : Char) (cs : List Char) : Entered c cs (ofChars (c :: cs)) := by
  rw [ofChars]
  by_cases hquote : c = '"' ∨ c = '\''
  · rw [if_pos hquote]; exact .string hquote
  by_cases hstart : Symbol.isNameStart c = true
  · rw [if_neg hquote, if_pos hstart]; exact .word hstart
  by_cases hdigit : c.isDigit = true
  · rw [if_neg hquote, if_neg hstart, if_pos hdigit]; exact .number hdigit
  rw [if_neg hquote, if_neg hstart, if_neg hdigit]
  by_cases hdot : c = '.'
  · rw [if_pos hdot]; exact .dot hdot
  by_cases hcomma : c = ','
  · rw [if_neg hdot, if_pos hcomma]; exact .comma hcomma
  by_cases hcolon : c = ':'
  · rw [if_neg hdot, if_neg hcomma, if_pos hcolon]; exact .colon hcolon
  rw [if_neg hdot, if_neg hcomma, if_neg hcolon]
  by_cases hoperator : c ∈ Symbol.operatorChars
  · rw [if_pos (List.contains_iff_mem.mpr hoperator)]; exact .operator hoperator
  by_cases hgrouper : c ∈ Symbol.grouperChars
  · rw [if_neg (mt List.contains_iff_mem.mp hoperator),
      if_pos (List.contains_iff_mem.mpr hgrouper)]
    exact .grouper hgrouper
  rw [if_neg (mt List.contains_iff_mem.mp hoperator), if_neg (mt List.contains_iff_mem.mp hgrouper)]
  apply Entered.stop
  simp only [StartsToken, not_or]
  exact ⟨not_or.mp hquote, hstart, hdigit, hdot, hcomma, hcolon, hoperator, hgrouper⟩

/-- A number is the digits at the front, and with a point and digits behind them
these as well. -/
theorem number_cases (cs : List Char) :
    (number cs = take .integer cs (digitRun cs) 0 ∧
      ∀ rest, cs.drop (digitRun cs) = '.' :: rest → digitRun rest = 0) ∨
    ∃ rest, cs.drop (digitRun cs) = '.' :: rest ∧ digitRun rest ≠ 0 ∧
      number cs = take .decimal cs (digitRun cs + 1 + digitRun rest) 0 := by
  simp only [number]
  split
  · rename_i rest hrest
    by_cases hplaces : digitRun rest = 0
    · refine Or.inl ⟨if_pos hplaces, ?_⟩
      intro rest' hrest'
      rw [hrest] at hrest'
      cases hrest'
      exact hplaces
    · exact Or.inr ⟨rest, hrest, hplaces, if_neg hplaces⟩
  · rename_i hnone
    exact Or.inl ⟨rfl, fun rest hrest => absurd hrest (hnone rest)⟩

/-- A dot is the point of a number just if a digit follows. -/
theorem dot_cases (cs : List Char) :
    (digitRun cs = 0 ∧ dot cs = .token ⟨.dot, ".", Symbol.tightest⟩ 1) ∨
    (digitRun cs ≠ 0 ∧ dot cs = take .decimal ('.' :: cs) (digitRun cs + 1) 0) := by
  by_cases hplaces : digitRun cs = 0
  · exact Or.inl ⟨hplaces, if_pos hplaces⟩
  · exact Or.inr ⟨hplaces, if_neg hplaces⟩

theorem string_eq_token {q : Char} (h : Scan.string q cs = .token t width) :
    ∃ content count, readQuoted q cs = some (content, count) ∧
      t = ⟨.string, String.ofList content, 0⟩ ∧ width = count + 1 := by
  unfold Scan.string at h
  split at h
  · rename_i content count hread
    cases h
    exact ⟨content, count, hread, rfl, rfl⟩
  · cases h

theorem digitRun_pos (hc : c.isDigit = true) : 0 < digitRun (c :: cs) := by
  rw [digitRun, List.takeWhile_cons, if_pos hc]
  exact Nat.succ_pos _

theorem token_ne_stop : Scan.token t width ≠ .stop := by
  intro h
  cases h

/-- Nothing is read just where no token begins. -/
theorem ofChars_eq_stop_iff : ofChars cs = .stop ↔ ∀ c ∈ cs.head?, ¬ StartsToken c := by
  cases cs with
  | nil => simp [ofChars]
  | cons c cs =>
    have hhead : (∀ d ∈ (c :: cs).head?, ¬ StartsToken d) ↔ ¬ StartsToken c := by simp
    rw [hhead]
    have hstarts {scan : Scan} (h : StartsToken c) (hscan : scan ≠ .stop) :
        scan = .stop ↔ ¬ StartsToken c := by simp [h, hscan]
    generalize ofChars (c :: cs) = scan, entered c cs = hentered
    -- Every scan but the last one comes to a token, or to a quote without its end.
    cases hentered with
    | string first =>
      apply hstarts (Or.inl first)
      unfold Scan.string
      split
      · exact token_ne_stop
      · intro h
        cases h
    | word first => exact hstarts (Or.inr (Or.inl first)) token_ne_stop
    | number first =>
      apply hstarts (Or.inr (Or.inr (Or.inl first)))
      obtain ⟨hnumber, -⟩ | ⟨rest, -, -, hnumber⟩ := number_cases (c :: cs)
      · rw [hnumber]
        exact token_ne_stop
      · rw [hnumber]
        exact token_ne_stop
    | dot first =>
      apply hstarts (by simp [StartsToken, first])
      obtain ⟨-, hdot⟩ | ⟨-, hdot⟩ := dot_cases cs
      · rw [hdot]
        exact token_ne_stop
      · rw [hdot]
        exact token_ne_stop
    | comma first => exact hstarts (by simp [StartsToken, first]) token_ne_stop
    | colon first => exact hstarts (by simp [StartsToken, first]) token_ne_stop
    | operator first => exact hstarts (by simp [StartsToken, first]) token_ne_stop
    | grouper first => exact hstarts (by simp [StartsToken, first]) token_ne_stop
    | stop first => simp [first]

/-! ## Widths -/

theorem width_bounds_of_number (hc : c.isDigit = true)
    (h : number (c :: cs) = .token t width) : 0 < width ∧ width ≤ (c :: cs).length := by
  have hpos := @digitRun_pos c cs hc
  have hrun := @digitRun_le (c :: cs)
  obtain ⟨hnumber, -⟩ | ⟨rest, hrest, -, hnumber⟩ := number_cases (c :: cs)
  · rw [hnumber] at h
    rw [width_of_take h]
    omega
  · have hplaces := @digitRun_le rest
    have hlen := congrArg List.length hrest
    rw [List.length_drop, List.length_cons (a := '.')] at hlen
    rw [hnumber] at h
    rw [width_of_take h]
    omega

theorem width_bounds_of_operator (h : operator (c :: cs) = .token t width) :
    0 < width ∧ width ≤ (c :: cs).length := by
  rw [width_of_take h]
  refine ⟨?_, operatorWidth_le (List.cons_ne_nil c cs)⟩
  unfold operatorWidth
  split
  · omega
  split <;> omega

/-- A token takes at least one character, and no more than there are. -/
theorem width_bounds_of_scan (h : ofChars cs = .token t width) :
    0 < width ∧ width ≤ cs.length := by
  cases cs with
  | nil => cases h
  | cons c cs =>
    have single {kind : Token.Kind} {precedence : Nat}
        (h : take kind (c :: cs) 1 precedence = .token t width) :
        0 < width ∧ width ≤ (c :: cs).length := by
      rw [width_of_take h, List.length_cons]
      omega
    generalize ofChars (c :: cs) = scan, entered c cs = hentered at h
    cases hentered with
    | string first =>
      obtain ⟨content, count, hread, -, rfl⟩ := string_eq_token h
      have hcount := (readQuoted_append hread []).2
      rw [List.length_cons]
      omega
    | word first =>
      rw [width_of_take h, List.takeWhile_cons, if_pos (isNameChar_of_isNameStart first)]
      have hle : (cs.takeWhile Symbol.isNameChar).length ≤ cs.length :=
        (List.takeWhile_prefix _).length_le
      simp only [List.length_cons]
      omega
    | number first => exact width_bounds_of_number first h
    | dot first =>
      have hrun := @digitRun_le cs
      obtain ⟨-, hdot⟩ | ⟨-, hdot⟩ := dot_cases cs
      · rw [hdot] at h
        cases h
        simp
      · rw [hdot] at h
        rw [width_of_take h, List.length_cons]
        omega
    | comma first => exact single h
    | colon first => exact single h
    | operator first => exact width_bounds_of_operator h
    | grouper first => exact single h
    | stop first => cases h

/-! ## Streams -/

/-- Each token takes something of the source. -/
theorem length_lt_of_next {s s' : Scanner} (h : s.next = (.ok (some t), s')) :
    s'.rest.length < s.rest.length := by
  simp only [Scanner.next] at h
  split at h
  · rename_i token width hscan
    have hpos := (width_bounds_of_scan hscan).1
    have hne : s.skipBlanks.rest ≠ [] := by
      intro hnil
      rw [hnil] at hscan
      cases hscan
    have hlen := List.length_pos_iff.mpr hne
    have hblanks : s.skipBlanks.rest.length ≤ s.rest.length :=
      (List.dropWhile_suffix Text.isBlank).length_le
    cases h
    simp only [List.length_drop]
    omega
  · cases h
  · cases h

/-- A scanner comes to its end, or to its first fault, with one call more than
there are characters ahead, and to nothing else with more calls. -/
theorem streamWithin_eq_stream {s : Scanner} {fuel : Nat} (h : s.rest.length < fuel) :
    s.streamWithin fuel = s.stream := by
  suffices hsame : ∀ {more : Nat}, s.rest.length < more →
      s.streamWithin fuel = s.streamWithin more from hsame (Nat.lt_succ_self _)
  induction fuel generalizing s with
  | zero => omega
  | succ fuel ih =>
    intro more hmore
    obtain ⟨more, rfl⟩ : ∃ k, more = k + 1 := ⟨more - 1, by omega⟩
    rw [Scanner.streamWithin, Scanner.streamWithin]
    split
    · rename_i token s' hnext
      have hlt := length_lt_of_next hnext
      have hrest : s'.streamWithin fuel = s'.streamWithin more := ih (by omega) (by omega)
      rw [hrest]
    · rfl
    · rfl

end BindingLang
