import BindingLang.Expr.Basic
import BindingLang.Proofs.Token.Spelling
import Mathlib.Data.List.TakeDrop
/-!
  Numerals: the decimal text of numbers, and what it reads back as.

  A number is written as a minus, if it is negative, and a text that makes one
  token: a run of digits for an integer, digits with a point between them for a
  float.

  What is proved:
    1. `ofDigits?_integerText` — the text of an integer reads back as it.
    2. `floatText_shape` — a finite float is written with digits on both sides of
       a point.
    3. `ofDigits?_eq` — digits of any length are the constant of their value: an integer if
       64 bits hold it, and a float otherwise.
    4. `ofDigits?_ne_none`, `ofDecimal?_ne_none` — the texts of integer and decimal
       tokens all stand for constants, with a sign or without.
-/

namespace BindingLang

/-- The sign of a number, written only where it is a minus. -/
def signText (negative : Bool) : List Char := if negative then ['-'] else []

/-- An integer in decimal, with its sign. -/
def integerText (n : Int64) : List Char := (toString n.toInt).toList

/-- A float in decimal, with a point even where no digit but zero follows it. -/
def floatText (x : Float) : List Char :=
  let cs := (Binary64.toText x).toList
  if '.' ∈ cs then cs else cs ++ ['.', '0']

/-- A whole number with its sign. -/
def signedWhole (negative : Bool) (magnitude : Nat) : Int :=
  if negative then -(magnitude : Int) else magnitude

theorem isDigits_toDigits (n : Nat) : IsDigits (Nat.toDigits 10 n) :=
  ⟨Nat.toDigits_ne_nil, fun _ hc => Nat.isDigit_of_mem_toDigits (by decide) (by decide) hc⟩

theorem IsDigits.append {cs ds : List Char} (h : IsDigits cs) (h' : ∀ c ∈ ds, c.isDigit = true) :
    IsDigits (cs ++ ds) := by
  refine ⟨by simp [h.1], ?_⟩
  intro c hc
  rcases List.mem_append.mp hc with hc | hc
  · exact h.2 c hc
  · exact h' c hc

theorem IsDigits.not_point {cs : List Char} (h : IsDigits cs) : '.' ∉ cs := by
  intro hm
  have := h.2 '.' hm
  revert this
  decide

theorem IsDigits.head {ds : List Char} (h : IsDigits ds) (more : List Char) :
    ∃ c ∈ (ds ++ more).head?, c.isDigit = true := by
  obtain ⟨hne, hall⟩ := h
  cases ds with
  | nil => exact absurd rfl hne
  | cons d ds => exact ⟨d, rfl, hall d List.mem_cons_self⟩

section Integer

theorem integerText_eq (n : Int64) :
    integerText n = signText (decide (n.toInt < 0)) ++ Nat.toDigits 10 n.toInt.natAbs := by
  rw [integerText]
  cases n.toInt with
  | ofNat m =>
    rw [signText, if_neg (by simp)]
    exact Nat.toList_repr
  | negSucc m =>
    have hneg : decide (Int.negSucc m < 0) = true := decide_eq_true (Int.negSucc_lt_zero m)
    rw [signText, if_pos hneg]
    show ("-" ++ Nat.repr (m + 1)).toList = _
    rw [String.toList_append, Nat.toList_repr]
    rfl

theorem digitsValue_toDigits (n : Nat) : Binary64.digitsValue (Nat.toDigits 10 n) = n :=
  Nat.ofDigitChars_ten_toDigits

theorem splitDigits_eq {cs : List Char} (h : ∀ c ∈ cs, c.isDigit = true) :
    Binary64.splitDigits cs = (cs, []) := by
  have hdrop : cs.dropWhile Char.isDigit = [] := by
    rw [← List.append_nil cs, List.dropWhile_append_of_pos h, List.dropWhile_nil]
  rw [Binary64.splitDigits, List.span_eq_takeWhile_dropWhile, takeWhile_eq_self h, hdrop]

/-- No sign comes off a text that begins with a digit. -/
theorem splitSign_of_head {cs : List Char} (h : ∀ c ∈ cs.head?, c.isDigit = true) :
    Binary64.splitSign cs = (false, cs) := by
  cases cs with
  | nil => rfl
  | cons c cs =>
    have hc := h c rfl
    unfold Binary64.splitSign
    split
    · rename_i heq
      cases heq
      exact absurd hc (by decide)
    · rename_i heq
      cases heq
      exact absurd hc (by decide)
    · rfl

theorem splitSign_signText {negative : Bool} {cs : List Char} (h : IsDigits cs) :
    Binary64.splitSign (signText negative ++ cs) = (negative, cs) := by
  cases negative with
  | true => rfl
  | false => exact splitSign_of_head fun c hc => h.2 c (List.mem_of_mem_head? hc)

theorem fits_toInt (n : Int64) : Integer.fits n.toInt = true := by
  have hlow := n.le_toInt
  have hhigh := n.toInt_lt
  rw [Integer.fits, Bool.and_eq_true]
  exact ⟨decide_eq_true (show Integer.least ≤ _ by unfold Integer.least; omega),
    decide_eq_true (show _ ≤ Integer.greatest by unfold Integer.greatest; omega)⟩

/-- Digits are the integer that they write, with their sign, if 64 bits hold it. -/
theorem readInt64?_eq {cs ds : List Char} {negative : Bool}
    (hsplit : Binary64.splitSign cs = (negative, ds)) (h : IsDigits ds) :
    Literal.readInt64? cs = Integer.ofInt? (signedWhole negative (Binary64.digitsValue ds)) := by
  have hempty : ds.isEmpty = false := List.isEmpty_eq_false_iff.mpr h.1
  rw [Literal.readInt64?]
  simp only [hsplit, splitDigits_eq h.2, hempty, List.isEmpty_nil, Bool.not_true,
    Bool.false_eq_true, or_self, if_false, signedWhole]

/-- The text of an integer reads back as it, the least one included. -/
theorem readInt64?_integerText (n : Int64) : Literal.readInt64? (integerText n) = some n := by
  have hdigits := isDigits_toDigits n.toInt.natAbs
  rw [integerText_eq, readInt64?_eq (splitSign_signText hdigits) hdigits, digitsValue_toDigits]
  -- The sign and the magnitude make up the number again.
  have hvalue : signedWhole (decide (n.toInt < 0)) n.toInt.natAbs = n.toInt := by
    rw [signedWhole]
    split
    · rename_i h
      have := of_decide_eq_true h
      omega
    · rename_i h
      have : ¬ n.toInt < 0 := fun hlt => h (decide_eq_true hlt)
      omega
  rw [hvalue, Integer.ofInt?, if_pos (fits_toInt n), Int64.ofInt_toInt]

theorem ofDigits?_integerText (n : Int64) :
    Literal.ofDigits? (String.ofList (signText (decide (n.toInt < 0))))
      (String.ofList (Nat.toDigits 10 n.toInt.natAbs)) = some (.integer n) := by
  rw [Literal.ofDigits?, ← String.ofList_append, String.toList_ofList, ← integerText_eq,
    readInt64?_integerText]

end Integer

section Float

theorem positional_shape (d : Binary64.Decimal) : IsDigits d.positional ∨
    ∃ whole places, IsDigits whole ∧ IsDigits places ∧ d.positional = whole ++ '.' :: places := by
  have hdigits : IsDigits (Binary64.digits d.significand) := isDigits_toDigits d.significand
  simp only [Binary64.Decimal.positional]
  split
  · rename_i hexp
    left
    split
    · exact hdigits
    · refine hdigits.append ?_
      intro c hc
      rw [(List.mem_replicate.mp hc).2]
      decide
  · rename_i hexp
    right
    -- The point falls among the digits, or zeros are put before them.
    by_cases hlen : (-d.exponent).toNat < (Binary64.digits d.significand).length
    · rw [if_pos hlen]
      refine ⟨_, _, ⟨?_, ?_⟩, ⟨?_, ?_⟩, rfl⟩
      · intro hnil
        have := congrArg List.length hnil
        simp only [List.length_take, List.length_nil] at this
        omega
      · exact fun c hc => hdigits.2 c (List.mem_of_mem_take hc)
      · intro hnil
        have := congrArg List.length hnil
        simp only [List.length_drop, List.length_nil] at this
        omega
      · exact fun c hc => hdigits.2 c (List.mem_of_mem_drop hc)
    · rw [if_neg hlen]
      refine ⟨['0'], _, ⟨by simp, by simp⟩, ⟨?_, ?_⟩, rfl⟩
      · simp [hdigits.1]
      · intro c hc
        rcases List.mem_append.mp hc with hc | hc
        · rw [(List.mem_replicate.mp hc).2]
          decide
        · exact hdigits.2 c hc

/-- A finite float is written with digits on both sides of a point. -/
theorem floatText_shape {x : Float} {e : Binary64.Exact} (h : Binary64.finite? x = some e) :
    ∃ whole places, IsDigits whole ∧ IsDigits places ∧
      floatText x = signText e.negative ++ (whole ++ '.' :: places) := by
  have htext : (Binary64.toText x).toList = signText e.negative ++ e.shortest.positional := by
    rw [Binary64.toText, h, String.toList_ofList]
    rfl
  have hsign : '.' ∉ signText e.negative := by cases e.negative <;> decide
  unfold floatText
  rw [htext]
  obtain hd | ⟨whole, places, hw, hp, hpos⟩ := positional_shape e.shortest
  · -- A whole number has no point of its own, and gets one with a zero.
    refine ⟨e.shortest.positional, ['0'], hd, ⟨by simp, by simp⟩, ?_⟩
    have hnone : '.' ∉ signText e.negative ++ e.shortest.positional := by
      rw [List.mem_append, not_or]
      exact ⟨hsign, hd.not_point⟩
    rw [if_neg hnone, List.append_assoc]
  · refine ⟨whole, places, hw, hp, ?_⟩
    rw [hpos, if_pos (by simp)]

/-- What a sign and a decimal stand for is the number of the whole text. -/
theorem ofDecimal?_eq {negative : Bool} {whole places : List Char} (hw : IsDigits whole) :
    Literal.ofDecimal? (String.ofList (signText negative))
        (String.ofList (whole ++ '.' :: places)) =
      (Binary64.readNumeral? (signText negative ++ (whole ++ '.' :: places))).map .float := by
  have hhead : (whole ++ '.' :: places).head? ≠ some '.' := by
    obtain ⟨hne, hall⟩ := hw
    cases whole with
    | nil => exact absurd rfl hne
    | cons c whole =>
      intro h
      cases h
      have := hall '.' List.mem_cons_self
      revert this
      decide
  rw [Literal.ofDecimal?, String.toList_ofList, if_neg hhead, ← String.ofList_append,
    String.toList_ofList]

end Float

section Reading

variable {cs whole places : List Char} {sign : String}

/-- A sign, written or not, comes off before a digit. -/
theorem splitSign_append (hsign : sign ∈ ["", "+", "-"])
    (h : ∀ c ∈ cs.head?, c.isDigit = true) :
    Binary64.splitSign (sign.toList ++ cs) = (decide (sign = "-"), cs) := by
  simp only [List.mem_cons, List.not_mem_nil, or_false] at hsign
  obtain rfl | rfl | rfl := hsign
  · exact splitSign_of_head h
  · rfl
  · rfl

/-- Digits end at a point. -/
theorem splitDigits_point (h : ∀ c ∈ whole, c.isDigit = true) :
    Binary64.splitDigits (whole ++ '.' :: places) = (whole, '.' :: places) := by
  have htake : (whole ++ '.' :: places).takeWhile Char.isDigit = whole := by
    rw [takeWhile_append_of_stop (by decide), takeWhile_eq_self h]
  have hdrop : (whole ++ '.' :: places).dropWhile Char.isDigit = '.' :: places := by
    rw [List.dropWhile_append_of_pos h, List.dropWhile_cons, if_neg (by decide)]
  rw [Binary64.splitDigits, List.span_eq_takeWhile_dropWhile, htake, hdrop]

/-- Digits are the number that they write, with their sign, rounded once. -/
theorem readNumeral?_eq {negative : Bool} (hsplit : Binary64.splitSign cs = (negative, whole))
    (h : IsDigits whole) : Binary64.readNumeral? cs =
      some (Binary64.ofDecimal negative (Binary64.digitsValue whole) 0) := by
  have hne : whole.isEmpty = false := List.isEmpty_eq_false_iff.mpr h.1
  simp [Binary64.readNumeral?, hsplit, splitDigits_eq h.2, hne, Binary64.readExponent?]

/-- Digits are a numeral, whatever their sign. -/
theorem readNumeral?_digits (hsign : sign ∈ ["", "+", "-"]) (h : IsDigits whole) :
    Binary64.readNumeral? (sign.toList ++ whole) ≠ none := by
  have hsplit := splitSign_append hsign fun c hc => h.2 c (List.mem_of_mem_head? hc)
  rw [readNumeral?_eq hsplit h]
  exact Option.some_ne_none _

/-- So are digits on both sides of a point. -/
theorem readNumeral?_point (hsign : sign ∈ ["", "+", "-"]) (hw : IsDigits whole)
    (hp : ∀ c ∈ places, c.isDigit = true) :
    Binary64.readNumeral? (sign.toList ++ (whole ++ '.' :: places)) ≠ none := by
  obtain ⟨c, hc, hdigit⟩ := hw.head ('.' :: places)
  have hsplit := splitSign_append hsign fun d hd => by
    rwa [Option.mem_unique hd hc]
  have hne : whole.isEmpty = false := List.isEmpty_eq_false_iff.mpr hw.1
  simp [Binary64.readNumeral?, hsplit, splitDigits_point hw.2, splitDigits_eq hp, hne,
    Binary64.readExponent?]

/-- An integer token is a constant, with a sign or without. -/
theorem ofDigits?_ne_none {digits : String} (hsign : sign ∈ ["", "+", "-"])
    (h : IsDigits digits.toList) : Literal.ofDigits? sign digits ≠ none := by
  simp only [Literal.ofDigits?]
  split
  · exact Option.some_ne_none _
  · rw [String.toList_append]
    exact fun hnone => readNumeral?_digits hsign h (Option.map_eq_none_iff.mp hnone)

/-- So is a decimal; a point at its front gets a zero before it. -/
theorem ofDecimal?_ne_none {decimal : String} (hsign : sign ∈ ["", "+", "-"])
    (hw : ∀ c ∈ whole, c.isDigit = true) (hp : IsDigits places)
    (h : decimal.toList = whole ++ '.' :: places) : Literal.ofDecimal? sign decimal ≠ none := by
  simp only [Literal.ofDecimal?]
  rw [ne_eq, Option.map_eq_none_iff, String.toList_append]
  cases whole with
  | nil =>
    rw [if_pos (by rw [h]; rfl), String.toList_append, h]
    have hzero : IsDigits ['0'] := ⟨by simp, by simp⟩
    exact readNumeral?_point hsign hzero hp.2
  | cons c whole =>
    have hpoint : decimal.toList.head? ≠ some '.' := by
      rw [h]
      intro heq
      cases heq
      exact absurd (hw '.' List.mem_cons_self) (by decide)
    rw [if_neg hpoint, h]
    exact readNumeral?_point hsign ⟨by simp, hw⟩ hp.2

end Reading

end BindingLang
