import BindingLang.Proofs.Token.Progress
import BindingLang.Proofs.Token.Spelling
import Mathlib.Data.List.TakeWhile
/-!
  Valid tokens: the tokens that the scanner can return.

  A token is valid if its text is one that its kind is written as, and its
  precedence that of the table. `Token.Kind.Spells` gives the texts of a kind
  and `Token.Kind.rank` the precedences, both without the scanner.

  What is proved:
    1. `valid_of_scan` — what is scanned at the front of any text is valid.
    2. `valid_of_mem_stream` — so is every token of a source.
-/

namespace BindingLang

/-- Whether a token of the kind can have the text. The text of a string is its
content, which can be any. -/
def Token.Kind.Spells : Token.Kind → List Char → Prop
  | .string, _ => True
  | .identifier, cs => IsIdentifier cs ∧ Symbol.isKeyword (String.ofList cs) = false
  | .keyword, cs => IsIdentifier cs ∧ Symbol.isKeyword (String.ofList cs) = true
  | .integer, cs => IsDigits cs
  | .decimal, cs => ∃ whole places, (∀ c ∈ whole, c.isDigit = true) ∧ IsDigits places ∧
      cs = whole ++ '.' :: places
  | .dot, cs => cs = ['.']
  | .comma, cs => cs = [',']
  | .colon, cs => cs = [':']
  | .grouper, cs => ∃ c ∈ Symbol.grouperChars, cs = [c]
  | .operator, cs => String.ofList cs ∈ Symbol.triples ++ Symbol.pairs ∨
      ∃ c ∈ Symbol.operatorChars, cs = [c]

/-- The text of a decimal shows its point behind the digits at its front. -/
theorem spells_decimal_iff {cs : List Char} : Token.Kind.decimal.Spells cs ↔
    (cs.dropWhile Char.isDigit).head? = some '.' ∧ IsDigits (cs.dropWhile Char.isDigit).tail := by
  constructor
  · rintro ⟨whole, places, hw, hplaces, rfl⟩
    rw [List.dropWhile_append_of_pos hw, List.dropWhile_cons, if_neg (by decide)]
    exact ⟨rfl, hplaces⟩
  · rintro ⟨hpoint, hplaces⟩
    obtain ⟨places, hdrop⟩ := List.head?_eq_some_iff.mp hpoint
    rw [hdrop] at hplaces
    refine ⟨cs.takeWhile Char.isDigit, places, fun c hc => List.mem_takeWhile_imp hc, hplaces, ?_⟩
    rw [← hdrop, List.takeWhile_append_dropWhile]

instance : DecidablePred IsDigits := fun cs =>
  decidable_of_iff ((!cs.isEmpty && cs.all Char.isDigit) = true) (by simp [IsDigits])

instance (kind : Token.Kind) (cs : List Char) : Decidable (kind.Spells cs) :=
  match kind with
  | .string => .isTrue trivial
  | .identifier =>
    inferInstanceAs (Decidable (IsIdentifier cs ∧ Symbol.isKeyword (String.ofList cs) = false))
  | .keyword =>
    inferInstanceAs (Decidable (IsIdentifier cs ∧ Symbol.isKeyword (String.ofList cs) = true))
  | .integer => inferInstanceAs (Decidable (IsDigits cs))
  | .decimal => decidable_of_iff _ spells_decimal_iff.symm
  | .dot => inferInstanceAs (Decidable (cs = ['.']))
  | .comma => inferInstanceAs (Decidable (cs = [',']))
  | .colon => inferInstanceAs (Decidable (cs = [':']))
  | .grouper =>
    decidable_of_iff (Symbol.grouperChars.any (fun c => cs == [c]) = true)
      (by simp [Token.Kind.Spells])
  | .operator =>
    decidable_of_iff (String.ofList cs ∈ Symbol.triples ++ Symbol.pairs ∨
      Symbol.operatorChars.any (fun c => cs == [c]) = true) (by simp [Token.Kind.Spells])

/-- The precedence of a token: that of its symbol in the table, and zero for the
kinds that carry none. -/
def Token.Kind.rank (kind : Token.Kind) (value : String) : Nat :=
  match kind with
  | .operator | .grouper | .dot => Symbol.precedence value
  | _ => 0

/-- Whether the token is one that can be written, with its own precedence. -/
structure Token.Valid (t : Token) : Prop where
  spelling : t.kind.Spells t.value.toList
  precedence : t.precedence = t.kind.rank t.value

instance : DecidablePred Token.Valid := fun t =>
  decidable_of_iff (t.kind.Spells t.value.toList ∧ t.precedence = t.kind.rank t.value)
    ⟨fun h => ⟨h.1, h.2⟩, fun h => ⟨h.spelling, h.precedence⟩⟩

open Scan

variable {t : Token} {cs : List Char} {c : Char} {width : Nat}

/-- A text taken from the front makes a valid token if its kind is written so. -/
theorem valid_take {kind : Token.Kind} {count precedence : Nat}
    (h : take kind cs count precedence = .token t width) (hs : kind.Spells (cs.take count))
    (hp : precedence = kind.rank (String.ofList (cs.take count))) : t.Valid := by
  cases h
  exact ⟨by rwa [String.toList_ofList], hp⟩

theorem valid_string {quote : Char} (h : Scan.string quote cs = .token t width) : t.Valid := by
  obtain ⟨content, count, -, rfl, -⟩ := string_eq_token h
  exact ⟨trivial, rfl⟩

/-- A word is all the characters of names at the front, and begins as names do. -/
theorem valid_word (hc : Symbol.isNameStart c = true) (h : word (c :: cs) = .token t width) :
    t.Valid := by
  have hname : IsIdentifier ((c :: cs).takeWhile Symbol.isNameChar) := by
    refine ⟨⟨c, ?_, hc⟩, fun d hd => List.mem_takeWhile_imp hd⟩
    rw [List.takeWhile_cons, if_pos (isNameChar_of_isNameStart hc)]
    rfl
  simp only [word] at h
  by_cases hk : Symbol.isKeyword (String.ofList ((c :: cs).takeWhile Symbol.isNameChar)) = true
  · rw [if_pos hk] at h
    refine valid_take h ?_ rfl
    rw [take_length_takeWhile]
    exact ⟨hname, hk⟩
  · rw [if_neg hk] at h
    refine valid_take h ?_ rfl
    rw [take_length_takeWhile]
    exact ⟨hname, Bool.eq_false_iff.mpr hk⟩

/-- The digits at the front. -/
theorem isDigits_take (h : digitRun cs ≠ 0) : IsDigits (cs.take (digitRun cs)) := by
  rw [digitRun, take_length_takeWhile]
  refine ⟨?_, fun d hd => List.mem_takeWhile_imp hd⟩
  intro hnil
  rw [digitRun, hnil] at h
  exact h rfl

/-- The digits that make a number need one before the point or behind it. -/
theorem valid_number (hc : digitRun cs ≠ 0) (h : number cs = .token t width) : t.Valid := by
  obtain ⟨hnumber, -⟩ | ⟨rest, hrest, hplaces, hnumber⟩ := number_cases cs
  · rw [hnumber] at h
    exact valid_take h (isDigits_take hc) rfl
  · rw [hnumber] at h
    refine valid_take h ⟨cs.take (digitRun cs), rest.take (digitRun rest),
      (isDigits_take hc).2, isDigits_take hplaces, ?_⟩ rfl
    rw [Nat.add_assoc, List.take_add, hrest, Nat.add_comm 1, List.take_succ_cons]

theorem valid_dot (h : dot cs = .token t width) : t.Valid := by
  obtain ⟨-, hdot⟩ | ⟨hplaces, hdot⟩ := dot_cases cs
  · rw [hdot] at h
    cases h
    exact ⟨rfl, by decide⟩
  · rw [hdot] at h
    refine valid_take h ⟨[], cs.take (digitRun cs), by simp, isDigits_take hplaces, ?_⟩ rfl
    rw [List.take_succ_cons, List.nil_append]

theorem mem_of_beginsWith {count : Nat} {symbols : List String}
    (h : beginsWith cs count symbols = true) : String.ofList (cs.take count) ∈ symbols :=
  List.contains_iff_mem.mp h

/-- The width of an operator is that of its symbol in one of the lists, or of one
character. -/
theorem valid_operator (hc : c ∈ Symbol.operatorChars)
    (h : operator (c :: cs) = .token t width) : t.Valid := by
  refine valid_take h ?_ rfl
  unfold operatorWidth
  split
  · rename_i htriple
    exact Or.inl (List.mem_append_left _ (mem_of_beginsWith htriple))
  split
  · rename_i hpair
    exact Or.inl (List.mem_append_right _ (mem_of_beginsWith hpair))
  · exact Or.inr ⟨c, hc, rfl⟩

/-- Whatever is scanned at the front of a text is valid. -/
theorem valid_of_scan (h : ofChars cs = .token t width) : t.Valid := by
  cases cs with
  | nil => cases h
  | cons c cs =>
    generalize ofChars (c :: cs) = scan, entered c cs = hentered at h
    cases hentered with
    | string first => exact valid_string h
    | word first => exact valid_word first h
    | number first => exact valid_number (digitRun_pos first).ne' h
    | dot first => exact valid_dot h
    | comma first =>
      subst first
      exact valid_take h rfl rfl
    | colon first =>
      subst first
      exact valid_take h rfl rfl
    | operator first => exact valid_operator first h
    | grouper first => exact valid_take h ⟨c, first, rfl⟩ rfl
    | stop first => cases h

theorem valid_of_next {s s' : Scanner} (h : s.next = (.ok (some t), s')) : t.Valid := by
  simp only [Scanner.next] at h
  split at h
  · rename_i token width hscan
    cases h
    exact valid_of_scan hscan
  · cases h
  · cases h

/-- Each token of a stream comes from one call of the scanner. -/
theorem valid_of_mem_streamWithin {fuel : Nat} {s : Scanner}
    (ht : t ∈ (s.streamWithin fuel).tokens) : t.Valid := by
  induction fuel generalizing s with
  | zero => cases ht
  | succ fuel ih =>
    rw [Scanner.streamWithin] at ht
    split at ht
    · rename_i token s' hnext
      rcases List.mem_cons.mp ht with rfl | ht
      · exact valid_of_next hnext
      · exact ih ht
    · cases ht
    · cases ht

theorem valid_of_mem_stream {source : String} (ht : t ∈ (Token.Stream.ofText source).tokens) :
    t.Valid :=
  valid_of_mem_streamWithin ht

end BindingLang
