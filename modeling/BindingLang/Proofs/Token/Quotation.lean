import BindingLang.Proofs.Token.Spelling
import BindingLang.Proofs.Token.Walk
/-!
  Quotations: where a string ends, and what it says.

  The scanner reads a string from the left and takes a backslash together with
  the character behind it, so it never counts backslashes. It ends where counting
  would end it: at the first quotation mark behind an even number of backslashes.
  The two agree since taking a pair away from the front of a text leaves the
  number of backslashes at its end as even, or as odd, as it was.

  What is proved:
    1. `slashRun_pair`, `slashRun_plain` — the backslashes at the end, after a pair
       or another character is taken away from the front.
    2. `closes_of_readQuoted`, `not_closes_of_readQuoted` — what is read ends at
       the first closing mark, and there is none where nothing is read.
    3. `string_ends_at_quote` — the end and the content of every string of a
       source, and the failure where it has no end.
-/

namespace BindingLang

/-- The number of backslashes at the end of a text. -/
def slashRun (cs : List Char) : Nat := (cs.rtakeWhile (· == '\\')).length

/-- Whether the character at place `k` is a quotation mark `q` that closes: an even
number of backslashes stands before it. -/
def ClosesAt (q : Char) (body : List Char) (k : Nat) : Prop :=
  body[k]? = some q ∧ slashRun (body.take k) % 2 = 0

/-- Whether it is the first that closes. -/
def ClosesFirst (q : Char) (body : List Char) (k : Nat) : Prop :=
  ClosesAt q body k ∧ ∀ j < k, ¬ ClosesAt q body j

/-- What the text of a string says: from the left, a backslash and the character
behind it are one character, and every other one stands for itself. -/
def unescaped : List Char → List Char
  | [] => []
  | [c] => [c]
  | c :: d :: rest =>
    if c = '\\' then behindSlash d :: unescaped rest else c :: unescaped (d :: rest)

variable {q c d : Char} {cs body content : List Char} {k width : Nat}

/-! ## Counting backslashes -/

theorem slashRun_append (ds cs : List Char) :
    slashRun (ds ++ cs) = if slashRun cs = cs.length then cs.length + slashRun ds
      else slashRun cs := by
  simp only [slashRun, List.rtakeWhile, List.length_reverse, List.reverse_append,
    List.takeWhile_append]
  split <;> simp

/-- Another character in front is not counted. -/
theorem slashRun_plain (hc : c ≠ '\\') (cs : List Char) : slashRun (c :: cs) = slashRun cs := by
  have hone : slashRun [c] = 0 := by simp [slashRun, List.rtakeWhile, hc]
  have happend := slashRun_append [c] cs
  rw [hone, List.singleton_append] at happend
  rw [happend]
  split <;> omega

/-- A pair in front changes nothing about the number being even: it is counted only
where all behind it are backslashes, and then whole or not at all. -/
theorem slashRun_pair (c : Char) (cs : List Char) :
    slashRun ('\\' :: c :: cs) % 2 = slashRun cs % 2 := by
  have htwo : slashRun ['\\', c] % 2 = 0 := by
    by_cases hc : c = '\\'
    · rw [hc]; decide
    · simp [slashRun, List.rtakeWhile, hc]
  have happend := slashRun_append ['\\', c] cs
  rw [List.cons_append, List.singleton_append] at happend
  rw [happend]
  split <;> omega

/-! ## Closing marks, character by character -/

theorem closesAt_mark (q : Char) (body : List Char) : ClosesFirst q (q :: body) 0 :=
  ⟨⟨rfl, rfl⟩, fun _ hj => absurd hj (Nat.not_lt_zero _)⟩

theorem closesAt_plain (hq : c ≠ q) (hc : c ≠ '\\') :
    ClosesAt q (c :: body) k ↔ ∃ j, k = j + 1 ∧ ClosesAt q body j := by
  cases k with
  | zero => simp [ClosesAt, hq]
  | succ k => simp [ClosesAt, slashRun_plain hc]

theorem closesAt_pair (hq : '\\' ≠ q) :
    ClosesAt q ('\\' :: c :: body) k ↔ ∃ j, k = j + 2 ∧ ClosesAt q body j := by
  have hone : slashRun ['\\'] = 1 := by decide
  match k with
  | 0 => simp [ClosesAt, hq]
  | 1 => simp [ClosesAt, hone]
  | k + 2 => simp [ClosesAt, slashRun_pair]

/-- What is first behind some characters is first behind more of them. -/
theorem ClosesFirst.shift {count : Nat} {longer : List Char}
    (hshift : ∀ k, ClosesAt q longer k ↔ ∃ j, k = j + count ∧ ClosesAt q body j)
    (h : ClosesFirst q body k) : ClosesFirst q longer (k + count) := by
  refine ⟨(hshift _).mpr ⟨k, rfl, h.1⟩, ?_⟩
  intro i hi hcloses
  obtain ⟨j, rfl, hj⟩ := (hshift i).mp hcloses
  exact h.2 j (by omega) hj

/-! ## Reading -/

theorem unescaped_plain (hc : c ≠ '\\') (cs : List Char) :
    unescaped (c :: cs) = c :: unescaped cs := by
  cases cs with
  | nil => rfl
  | cons d cs => rw [unescaped, if_neg hc]

theorem unescaped_pair (c : Char) (cs : List Char) :
    unescaped ('\\' :: c :: cs) = behindSlash c :: unescaped cs := by
  rw [unescaped, if_pos rfl]

/-- What is read ends at the first closing mark, and says what is before it. -/
theorem closes_of_readQuoted (h : readQuoted q body = some (content, width)) :
    ∃ k, ClosesFirst q body k ∧ width = k + 1 ∧ content = unescaped (body.take k) := by
  induction body using readQuoted.induct q generalizing content width with
  | case1 => cases h
  | case2 rest =>
    rw [readQuoted_close] at h
    cases h
    exact ⟨0, closesAt_mark q rest, rfl, rfl⟩
  | case3 hne => simp [readQuoted, hne] at h
  | case4 escaped rest hne ih =>
    rw [readQuoted_escape hne] at h
    obtain ⟨⟨inner, count⟩, hread, heq⟩ := Option.map_eq_some_iff.mp h
    cases heq
    obtain ⟨k, hk, rfl, rfl⟩ := ih hread
    refine ⟨k + 2, hk.shift (fun _ => closesAt_pair hne), rfl, ?_⟩
    rw [List.take_succ_cons, List.take_succ_cons, unescaped_pair, unescape_eq]
  | case5 c rest hq hne ih =>
    rw [readQuoted_plain hq hne] at h
    obtain ⟨⟨inner, count⟩, hread, heq⟩ := Option.map_eq_some_iff.mp h
    cases heq
    obtain ⟨k, hk, rfl, rfl⟩ := ih hread
    refine ⟨k + 1, hk.shift (fun _ => closesAt_plain hq hne), rfl, ?_⟩
    rw [List.take_succ_cons, unescaped_plain hne]

/-- Where nothing is read, no mark closes. -/
theorem not_closes_of_readQuoted (h : readQuoted q body = none) (k : Nat) :
    ¬ ClosesAt q body k := by
  induction body using readQuoted.induct q generalizing k with
  | case1 => simp [ClosesAt]
  | case2 rest =>
    rw [readQuoted_close] at h
    cases h
  | case3 hne =>
    intro hcloses
    cases k with
    | zero => exact hne (Option.some.inj hcloses.1)
    | succ k => cases hcloses.1
  | case4 escaped rest hne ih =>
    rw [readQuoted_escape hne, Option.map_eq_none_iff] at h
    rw [closesAt_pair hne]
    rintro ⟨j, -, hj⟩
    exact ih h j hj
  | case5 c rest hq hne ih =>
    rw [readQuoted_plain hq hne, Option.map_eq_none_iff] at h
    rw [closesAt_plain hq hne]
    rintro ⟨j, -, hj⟩
    exact ih h j hj

/-! ## Strings of a source -/

/-- Whether the mark at place `j` of the source closes the string that the one at
place `p` opens: it is the same mark, and the number of backslashes before it,
counted back to the opening mark, is even. -/
def Closes (source : List Char) (q : Char) (p j : Nat) : Prop :=
  p < j ∧ source[j]? = some q ∧ slashRun (source.extract (p + 1) j) % 2 = 0

instance (source : List Char) (q : Char) (p j : Nat) : Decidable (Closes source q p j) :=
  inferInstanceAs (Decidable (_ ∧ _ ∧ _))

theorem closes_iff {source : List Char} {p j : Nat} :
    Closes source q p j ↔ ∃ k, j = p + 1 + k ∧ ClosesAt q (source.drop (p + 1)) k := by
  constructor
  · rintro ⟨hlt, hmark, heven⟩
    refine ⟨j - (p + 1), by omega, ?_, heven⟩
    rwa [List.getElem?_drop, show p + 1 + (j - (p + 1)) = j by omega]
  · rintro ⟨k, rfl, hmark, heven⟩
    refine ⟨by omega, ?_, ?_⟩
    · rwa [List.getElem?_drop] at hmark
    · rwa [List.extract, Nat.add_sub_cancel_left]

theorem Closes.isLeast {source : List Char} {p j : Nat} (h : Closes source q p j)
    (hfirst : ∀ i < j, ¬ Closes source q p i) :
    ∃ k, j = p + 1 + k ∧ ClosesFirst q (source.drop (p + 1)) k := by
  obtain ⟨k, rfl, hk⟩ := closes_iff.mp h
  refine ⟨k, rfl, hk, ?_⟩
  intro i hi hcloses
  exact hfirst (p + 1 + i) (by omega) (closes_iff.mpr ⟨i, rfl, hcloses⟩)

theorem ClosesFirst.unique {j : Nat} (h : ClosesFirst q body k) (h' : ClosesFirst q body j) :
    k = j := by
  by_contra hne
  rcases Nat.lt_or_gt_of_ne hne with hlt | hlt
  · exact h'.2 k hlt h.1
  · exact h.2 j hlt h'.1

/-- A string begins at every quotation mark that the scanner comes to: if some mark
closes it, it goes to the first of these and says what is between the two, each
backslash taken with the character behind it; and just if none does, the scanner
fails and tells the place of the opening mark. -/
theorem string_ends_at_quote {source : String} {calls p : Nat} {q : Quote}
    (hstart : (Scanner.after source calls).skipBlanks.position = p)
    (hopen : source.toList[p]? = some q.char) :
    (∀ j, Closes source.toList q.char p j → (∀ i < j, ¬ Closes source.toList q.char p i) →
      (Scanner.after source calls).next =
        (.ok (some ⟨.string, String.ofList (unescaped (source.toList.extract (p + 1) j)), 0⟩),
          ⟨source.toList.drop (j + 1), j + 1, j + 1⟩)) ∧
    ((Scanner.after source calls).next.1 = .error (.unterminatedString p) ↔
      ∀ j, ¬ Closes source.toList q.char p j) := by
  have hwithin := (Scanner.within_after source calls).skipBlanks
  have hrest : (Scanner.after source calls).skipBlanks.rest =
      q.char :: source.toList.drop (p + 1) := by
    rw [hwithin.rest_eq, hstart]
    exact List.drop_eq_getElem?_toList_append ▸ by simp [hopen]
  have hscan : Scan.ofChars (Scanner.after source calls).skipBlanks.rest =
      Scan.string q.char (source.toList.drop (p + 1)) := by
    rw [hrest, Scan.ofChars, if_pos (isQuote_char q)]
  unfold Scan.string at hscan
  cases hread : readQuoted q.char (source.toList.drop (p + 1)) with
  | some read =>
    obtain ⟨content, width⟩ := read
    obtain ⟨k, hfirst, rfl, rfl⟩ := closes_of_readQuoted hread
    rw [hread] at hscan
    have hnext := Scanner.next_of_token hscan
    refine ⟨?_, ?_⟩
    · intro j hcloses hleast
      obtain ⟨i, rfl, hi⟩ := hcloses.isLeast hleast
      obtain rfl := hi.unique hfirst
      rw [hnext, hstart, hwithin.drop_rest, hstart, List.extract, Nat.add_sub_cancel_left]
      rw [show p + (i + 1 + 1) = p + 1 + i + 1 by omega]
    · rw [hnext]
      constructor
      · intro h
        cases h
      · intro hnone
        exact absurd (closes_iff.mpr ⟨k, rfl, hfirst.1⟩) (hnone (p + 1 + k))
  | none =>
    have hnone : ∀ j, ¬ Closes source.toList q.char p j := by
      intro j hcloses
      obtain ⟨k, rfl, hk⟩ := closes_iff.mp hcloses
      exact not_closes_of_readQuoted hread k hk
    rw [hread] at hscan
    rw [Scanner.next_of_unclosed hscan, hstart]
    exact ⟨fun j hcloses _ => absurd hcloses (hnone j), fun _ => hnone, fun _ => rfl⟩

/-- Behind the first word two strings follow: the first holds the end of a line and a step
back, the other mark and an escaped one and ends behind two backslashes, and the second has
no end. -/
def quotedSource : String := "x '\\n\\b\\'\"\\\\' '\\'"

theorem string_ends_at_quote_sample :
    (Scanner.after quotedSource 1).skipBlanks.position = 2 ∧
      quotedSource.toList[2]? = some Quote.single.char ∧
      (Scanner.after quotedSource 1).next =
        (.ok (some ⟨.string, "\n\x08'\"\\", 0⟩), ⟨" '\\'".toList, 13, 13⟩) ∧
      (Scanner.after quotedSource 2).skipBlanks.position = 14 ∧
      quotedSource.toList[14]? = some Quote.single.char ∧
      (Scanner.after quotedSource 2).next.1 = .error (.unterminatedString 14) := by
  have hfirst : (Scanner.after quotedSource 1).skipBlanks.position = 2 := by decide +kernel
  have hsecond : (Scanner.after quotedSource 2).skipBlanks.position = 14 := by decide +kernel
  have hcloses : Closes quotedSource.toList '\'' 2 12 := by decide
  have hleast : ∀ i < 12, ¬ Closes quotedSource.toList '\'' 2 i := by decide
  have hnone : ∀ j, ¬ Closes quotedSource.toList '\'' 14 j := by
    have hwithin : ∀ j < 17, ¬ Closes quotedSource.toList '\'' 14 j := by decide
    intro j hj
    obtain ⟨hlt, -⟩ := List.getElem?_eq_some_iff.mp hj.2.1
    exact hwithin j hlt hj
  have hstring := (@string_ends_at_quote quotedSource 1 2 .single hfirst (by decide)).1 12 hcloses
    hleast
  exact ⟨hfirst, by decide, hstring, hsecond, by decide,
    (@string_ends_at_quote quotedSource 2 14 .single hsecond (by decide)).2.mpr hnone⟩

end BindingLang
