import BindingLang.Proofs.Token.Progress
import Mathlib.Data.List.DropRight
/-!
  Walks: where a scanner stands after any number of calls.

  A scanner counts the characters behind it, and keeps those ahead. The two go
  together: whatever it has been asked, it stands within its source, and what it
  keeps is the rest of the source from there. Once it has delivered no token it
  delivers none any more.

  What is proved:
    1. `Within.next`, `within_after` — a call keeps a scanner within its source,
       and so does any number of calls.
    2. `skipped_blank` — between two tokens there is nothing but blanks.
    3. `stopped_after` — the end, and a failure, are final.
-/

namespace BindingLang

namespace Scanner

variable {s : Scanner} {source : List Char} {t : Token} {width : Nat}

/-- The scanner after a number of calls of `next`. -/
def after (source : String) : Nat → Scanner
  | 0 => ofText source
  | calls + 1 => (after source calls).next.2

/-- Whether the scanner stands within the source: the text that it has not
delivered begins no later than where it stands, and what it keeps is the rest. -/
structure Within (source : List Char) (s : Scanner) : Prop where
  mark_le : s.mark ≤ s.position
  position_le : s.position ≤ source.length
  rest_eq : s.rest = source.drop s.position

/-! ## What a call does -/

theorem next_of_token (h : Scan.ofChars s.skipBlanks.rest = .token t width) :
    s.next = (.ok (some t), ⟨s.skipBlanks.rest.drop width, s.skipBlanks.position + width,
      s.skipBlanks.position + width⟩) := by
  simp only [next, h]

theorem next_of_stop (h : Scan.ofChars s.skipBlanks.rest = .stop) :
    s.next = (.ok none, s.skipBlanks) := by
  simp only [next, h]

theorem next_of_unclosed (h : Scan.ofChars s.skipBlanks.rest = .unclosed) :
    s.next = (.error (.unterminatedString s.skipBlanks.position),
      ⟨[], s.skipBlanks.position + s.skipBlanks.rest.length, s.skipBlanks.mark⟩) := by
  simp only [next, h]

/-! ## Standing within the source -/

theorem within_ofText (source : String) : (ofText source).Within source.toList :=
  ⟨Nat.le_refl 0, Nat.zero_le _, rfl⟩

namespace Within

variable (h : s.Within source)
include h

theorem length_rest : s.position + s.rest.length = source.length := by
  have hle := h.position_le
  rw [h.rest_eq, List.length_drop]
  omega

/-- The characters ahead of a place are those of the source from there. -/
theorem drop_rest (count : Nat) : s.rest.drop count = source.drop (s.position + count) := by
  rw [h.rest_eq, List.drop_drop]

theorem skipBlanks : s.skipBlanks.Within source := by
  have hlen := h.length_rest
  have hrun : (s.rest.takeWhile Text.isBlank).length ≤ s.rest.length :=
    (List.takeWhile_prefix _).length_le
  refine ⟨Nat.le_refl _, ?_, ?_⟩
  · show s.position + (s.rest.takeWhile Text.isBlank).length ≤ source.length
    omega
  · show Text.trimStart s.rest = _
    rw [Text.trimStart, ← drop_length_takeWhile, h.drop_rest]
    rfl

/-- What is skipped is blank. -/
theorem skipped_blank :
    ∀ c ∈ source.extract s.position s.skipBlanks.position, Text.isBlank c = true := by
  intro c hc
  have hrun : s.skipBlanks.position - s.position = (s.rest.takeWhile Text.isBlank).length :=
    Nat.add_sub_cancel_left _ _
  rw [List.extract, hrun, ← h.rest_eq, take_length_takeWhile] at hc
  exact List.mem_takeWhile_imp hc

/-- A call keeps a scanner within its source. -/
theorem next : s.next.2.Within source := by
  have hskip := h.skipBlanks
  have hlen := hskip.length_rest
  cases hscan : Scan.ofChars s.skipBlanks.rest with
  | token t width =>
    have hwidth := (width_bounds_of_scan hscan).2
    rw [next_of_token hscan]
    refine ⟨Nat.le_refl _, ?_, hskip.drop_rest width⟩
    show s.skipBlanks.position + width ≤ source.length
    omega
  | stop =>
    rw [next_of_stop hscan]
    exact hskip
  | unclosed =>
    rw [next_of_unclosed hscan]
    refine ⟨?_, Nat.le_of_eq hlen, ?_⟩
    · show s.skipBlanks.position ≤ s.skipBlanks.position + s.skipBlanks.rest.length
      omega
    · show [] = source.drop (s.skipBlanks.position + s.skipBlanks.rest.length)
      rw [hlen, List.drop_length]

end Within

/-- After any number of calls a scanner stands within its source. -/
theorem within_after (source : String) (calls : Nat) :
    (after source calls).Within source.toList := by
  induction calls with
  | zero => exact within_ofText source
  | succ calls ih => exact ih.next

/-! ## The end -/

theorem skipBlanks_skipBlanks (s : Scanner) : s.skipBlanks.skipBlanks = s.skipBlanks := by
  have hrest : Text.trimStart (Text.trimStart s.rest) = Text.trimStart s.rest :=
    List.dropWhile_idempotent Text.isBlank s.rest
  have hrun : (Text.trimStart s.rest).takeWhile Text.isBlank = [] := by
    have happend := List.takeWhile_append_dropWhile (p := Text.isBlank) (l := Text.trimStart s.rest)
    rw [show (Text.trimStart s.rest).dropWhile Text.isBlank = Text.trimStart s.rest from hrest]
      at happend
    exact List.append_left_eq_self.mp happend
  simp only [skipBlanks, hrest, hrun, List.length_nil, Nat.add_zero]

/-- Where nothing is read, nothing is read again. -/
theorem stop_of_next (h : ∀ t, s.next.1 ≠ .ok (some t)) :
    Scan.ofChars s.next.2.skipBlanks.rest = .stop := by
  cases hscan : Scan.ofChars s.skipBlanks.rest with
  | token t width =>
    rw [next_of_token hscan] at h
    exact absurd rfl (h t)
  | stop => rw [next_of_stop hscan, skipBlanks_skipBlanks, hscan]
  | unclosed => rw [next_of_unclosed hscan]; rfl

/-- The end and a failure are final. -/
theorem stopped_after {source : String} {calls : Nat}
    (h : ∀ t, (after source calls).next.1 ≠ .ok (some t)) (more : Nat) :
    (after source (calls + 1 + more)).next.1 = .ok none := by
  have hstop : Scan.ofChars (after source (calls + 1 + more)).skipBlanks.rest = .stop := by
    induction more with
    | zero => exact stop_of_next h
    | succ more ih =>
      apply stop_of_next
      intro t ht
      have hnone := congrArg Prod.fst (next_of_stop ih)
      rw [show (after source (calls + 1 + more)).next.1 = _ from ht] at hnone
      cases hnone
  rw [next_of_stop hstop]

end Scanner

end BindingLang
