import BindingLang.Proofs.Parser.Perform
/-!
  Adequacy: the parser succeeds exactly where there is a run.

  `Sound` says of a fuel that every success with it is a run, for all parsing
  functions together; one lemma for each function makes the step to the next
  fuel.

  What is proved:
    1. `sound` — every success of a parsing function is a run.
    2. `parse_eq_ok_iff` — a source parses to a tree just if its token stream
       does not fail and there is a run of an expression over all of it.
-/

namespace BindingLang

namespace Parser

open Cursor

variable {N : Type} {B : Builder N}

/-- A cursor that the parser can leave where it started before `ts`: it faces
some `us` with the given property, and has got to the end of the stream only if
the stream ends well. -/
def Leaves (failure : Option LexError) (total : Nat) (ts : List Token) (c : Cursor)
    (P : List Token → Prop) : Prop :=
  ∃ us, c = facing failure total us ∧ (us = [] → ts = [] ∨ failure = none) ∧ P us

/-- Whether all successes with the fuel `n` are runs. -/
structure Sound (B : Builder N) (failure : Option LexError) (total n : Nat) : Prop where
  expression : ∀ {ts e c}, ts.length < total →
    expression B n (facing failure total ts) = .value e c →
    Leaves failure total ts c (Run B .expression ts (.node e))
  climb : ∀ {left minimum ts e c}, ts.length < total →
    climb B n left minimum (facing failure total ts) = .value e c →
    Leaves failure total ts c (Run B (.climb left minimum) ts (.node e))
  binary : ∀ {left operator ts e c}, ts.length + 1 < total →
    binary B n left operator (facing failure total (operator :: ts)) = .value e c →
    Symbol.isBinary operator.value = true ∧ Leaves failure total [operator] c fun us =>
      ∃ operand right ms, Run B .unary ts (.node operand) ms ∧
        Run B (.tails operator operand) ms (.node right) us ∧
        e = B.binary left operator.value right
  tails : ∀ {operator right ts e c}, ts.length < total →
    tails B n operator right (facing failure total ts) = .value e c →
    Leaves failure total ts c (Run B (.tails operator right) ts (.node e))
  unary : ∀ {ts e c}, ts.length < total →
    unary B n (facing failure total ts) = .value (some e) c →
    Leaves failure total ts c (Run B .unary ts (.node e))
  prefixed : ∀ {operator ts e c}, ts.length < total →
    prefixed B n operator (facing failure total ts) = .value (some e) c →
    Symbol.isUnary operator.value = true ∧ Leaves failure total ts c fun us =>
      ∃ operand node ms, Run B .primary ts (.node operand) ms ∧
        Run B (.climb operand Symbol.tightest) ms (.node node) us ∧
        e = B.unary operator.value node
  ternary : ∀ {left mark ts e c}, ts.length + 1 < total →
    ternary B n left (facing failure total (mark :: ts)) = .value e c →
    Leaves failure total [mark] c fun us =>
      ∃ whenTrue whenFalse colon ms, Run B .expression ts (.node whenTrue) (colon :: ms) ∧
        colon.kind = .colon ∧ Run B .expression ms (.node whenFalse) us ∧
        e = B.ternary left whenTrue whenFalse
  primary : ∀ {ts e c}, ts.length < total →
    primary B n (facing failure total ts) = .value (some e) c →
    Leaves failure total ts c (Run B .primary ts (.node e))
  noArguments : ∀ {ts c}, arguments B n (facing failure total ts) = .value none c →
    c = facing failure total ts ∧ ∀ t ∈ ts.head?, t.isSymbol .grouper "(" = false
  arguments : ∀ {ts nodes c}, ts.length < total →
    arguments B n (facing failure total ts) = .value (some nodes) c →
    Leaves failure total ts c fun us => ∃ opener rest, ts = opener :: rest ∧
      opener.isSymbol .grouper "(" = true ∧ Run B (.items ")") rest (.items nodes) us
  subscript : ∀ {opener ts e c}, ts.length + 1 < total →
    subscript B n (facing failure total (opener :: ts)) = .value e c →
    Leaves failure total [opener] c fun us => ∃ closer,
      Run B .expression ts (.node e) (closer :: us) ∧ closer.isSymbol .grouper "]" = true
  items : ∀ {closer opener ts nodes c}, ts.length + 1 < total →
    items B n closer (facing failure total (opener :: ts)) = .value nodes c →
    Leaves failure total [opener] c (Run B (.items closer) ts (.items nodes))
  entries : ∀ {opener ts nodes c}, ts.length + 1 < total →
    entries B n (facing failure total (opener :: ts)) = .value nodes c →
    Leaves failure total [opener] c (Run B .entries ts (.entries nodes))

variable {failure : Option LexError} {total n : Nat}

/-- What stands after a dot is split into a name and perhaps arguments. -/
theorem memberOf_eq_value {left node : N} {right : Option N} {c c' : Cursor}
    (h : memberOf B left right c = .value node c') : c' = c ∧ ∃ operand, right = some operand ∧
      ((∃ name, B.member operand = .ok (.name name) ∧ node = B.getter left name) ∨
        ∃ name nodes, B.member operand = .ok (.call name nodes) ∧
          B.invoke left (some name) (some nodes) = .ok node) := by
  cases right with
  | none => cases h
  | some operand =>
    simp only [memberOf] at h
    rcases hs : B.member operand with kind | ⟨name⟩ | ⟨name, nodes⟩ <;> rw [hs] at h
    · cases h
    · cases h
      exact ⟨rfl, operand, rfl, Or.inl ⟨name, hs, rfl⟩⟩
    · obtain ⟨builds, rfl⟩ := ofExcept_eq_value h
      exact ⟨rfl, operand, rfl, Or.inr ⟨name, nodes, hs, builds⟩⟩

theorem constant_eq_value {text : String} {value : Option Literal} {t : Token} {ts : List Token}
    {e : N} {c : Cursor} (ht : ts.length < total)
    (h : constant B text value (facing failure total (t :: ts)) = .value e c) :
    ∃ literal, e = B.literal literal ∧ value = some literal ∧ c = facing failure total ts ∧
      (ts = [] → failure = none) := by
  cases value with
  | none => cases h
  | some literal =>
    obtain ⟨hend, h₁⟩ := advance_bind_eq_value ht h
    cases h₁
    exact ⟨literal, rfl, rfl, rfl, hend⟩

theorem arguments_none {ts : List Token} {c : Cursor}
    (h : arguments B (n + 1) (facing failure total ts) = .value none c) :
    c = facing failure total ts ∧ ∀ t ∈ ts.head?, t.isSymbol .grouper "(" = false := by
  rw [arguments, place_bind_apply] at h
  split at h
  · obtain ⟨nodes, -, heq⟩ := map_eq_value h
    cases heq
  · rename_i hs
    cases h
    exact ⟨rfl, fun t ht => Bool.eq_false_iff.mpr fun h => hs (isSymbol_facing.mpr ⟨t, ht, h⟩)⟩

section Step

variable (ih : Sound B failure total n)
include ih

theorem expression_sound {ts : List Token} {e : N} {c : Cursor} (ht : ts.length < total)
    (h : expression B (n + 1) (facing failure total ts) = .value e c) :
    Leaves failure total ts c (Run B .expression ts (.node e)) := by
  cases ts with
  | nil =>
    rw [expression_empty] at h
    cases h
    exact ⟨[], rfl, fun _ => Or.inl rfl, .empty⟩
  | cons t ts =>
    rw [expression, place_bind_apply] at h
    obtain ⟨operand, c₁, ho, h⟩ := bind_eq_value h
    cases operand with
    | none => cases h
    | some operand =>
      obtain ⟨ms, rfl, hms, first⟩ := ih.unary ht ho
      have hl := first.length_le
      obtain ⟨us, rfl, hus, tail⟩ := ih.climb (by omega) h
      exact ⟨us, rfl, fun hu => (hus hu).elim hms Or.inr, .whole first tail⟩

theorem climb_sound {left : N} {minimum : Nat} {ts : List Token} {e : N} {c : Cursor}
    (ht : ts.length < total)
    (h : climb B (n + 1) left minimum (facing failure total ts) = .value e c) :
    Leaves failure total ts c (Run B (.climb left minimum) ts (.node e)) := by
  cases ts with
  | nil =>
    rw [climb_stop (by simp)] at h
    cases h
    exact ⟨[], rfl, fun _ => Or.inl rfl, .stop (by simp)⟩
  | cons t ts =>
    have ht' : ts.length + 1 < total := ht
    rw [climb, place_bind_apply] at h
    simp only [current_facing_cons] at h
    split at h
    · -- A call: the arguments cannot be missing, as their bracket is the next token.
      rename_i opens
      obtain ⟨nodes, c₁, ha, h₁⟩ := bind_eq_value h
      cases nodes with
      | none =>
        have := (ih.noArguments ha).2 t rfl
        rw [opens] at this
        cases this
      | some nodes =>
        obtain ⟨callee, c₂, hb, h₂⟩ := bind_eq_value h₁
        obtain ⟨builds, rfl⟩ := ofExcept_eq_value hb
        obtain ⟨ms, rfl, hms, opener, rest, heq, -, list⟩ := ih.arguments ht ha
        cases heq
        have hl := list.length_le
        obtain ⟨us, rfl, hus, tail⟩ := ih.climb (by omega) h₂
        exact ⟨us, rfl, fun hu => (hus hu).elim hms Or.inr, .call opens list builds tail⟩
    split at h
    · -- An index.
      rename_i opens
      obtain ⟨argument, c₁, ha, h₁⟩ := bind_eq_value h
      obtain ⟨ms, rfl, hms, closer, key, closes⟩ := ih.subscript ht' ha
      have hl := key.length_le
      simp only [List.length_cons] at hl
      obtain ⟨us, rfl, hus, tail⟩ := ih.climb (by omega) h₁
      refine ⟨us, rfl, fun hu => ?_, .index opens key closes tail⟩
      exact (hus hu).elim (fun hm => (hms hm).imp (by simp) id) Or.inr
    split at h
    · -- A dot: whether a member is read or called is told by the split node.
      rename_i kind
      obtain ⟨hend, h₁⟩ := advance_bind_eq_value (by omega) h
      obtain ⟨right, c₂, hr, h₂⟩ := bind_eq_value h₁
      obtain ⟨node, c₃, hm, h₃⟩ := bind_eq_value h₂
      obtain ⟨rfl, operand, rfl, splits⟩ := memberOf_eq_value hm
      obtain ⟨ms, rfl, hms, first⟩ := ih.unary (by omega) hr
      have hl := first.length_le
      obtain ⟨us, rfl, hus, tail⟩ := ih.climb (by omega) h₃
      refine ⟨us, rfl, fun hu => Or.inr ((hus hu).elim (fun hm => (hms hm).elim hend id) id), ?_⟩
      obtain ⟨name, splits, rfl⟩ | ⟨name, nodes, splits, builds⟩ := splits
      · exact .getter kind first splits tail
      · exact .method kind first splits builds tail
    split at h
    · -- An operator that binds tight enough: the mark of a choice, or any other.
      rename_i binds
      split at h
      · rename_i value
        obtain ⟨node, c₁, hn, h₁⟩ := bind_eq_value h
        obtain ⟨vs, rfl, hvs, whenTrue, whenFalse, colon, ms, first, colons, second, rfl⟩ :=
          ih.ternary ht' hn
        have hl := first.length_le
        have hl' := second.length_le
        simp only [List.length_cons] at hl
        obtain ⟨us, rfl, hus, tail⟩ := ih.climb (by omega) h₁
        refine ⟨us, rfl, fun hu => ?_,
          .ternary binds.1 value binds.2 first colons second tail⟩
        exact (hus hu).elim (fun hm => (hvs hm).imp (by simp) id) Or.inr
      · rename_i value
        obtain ⟨node, c₁, hn, h₁⟩ := bind_eq_value h
        obtain ⟨known, vs, rfl, hvs, operand, right, ms, first, second, rfl⟩ := ih.binary ht' hn
        have hl := first.length_le
        have hl' := second.length_le
        obtain ⟨us, rfl, hus, tail⟩ := ih.climb (by omega) h₁
        refine ⟨us, rfl, fun hu => ?_,
          .binary binds.1 value binds.2 known first second tail⟩
        exact (hus hu).elim (fun hm => (hvs hm).imp (by simp) id) Or.inr
    · rename_i hcall hindex hdot hoperator
      cases h
      refine ⟨t :: ts, rfl, by simp, .stop ?_⟩
      rintro u ⟨⟩
      simp only [Extends, not_or]
      exact ⟨hcall, hindex, hdot, hoperator⟩

theorem binary_sound {left : N} {operator : Token} {ts : List Token} {e : N} {c : Cursor}
    (ht : ts.length + 1 < total)
    (h : binary B (n + 1) left operator (facing failure total (operator :: ts)) = .value e c) :
    Symbol.isBinary operator.value = true ∧ Leaves failure total [operator] c fun us =>
      ∃ operand right ms, Run B .unary ts (.node operand) ms ∧
        Run B (.tails operator operand) ms (.node right) us ∧
        e = B.binary left operator.value right := by
  rw [binary] at h
  split at h
  · cases h
  rename_i known
  obtain ⟨hend, h₁⟩ := advance_bind_eq_value (by omega) h
  obtain ⟨operand, c₂, ho, h₂⟩ := bind_eq_value h₁
  cases operand with
  | none => cases h₂
  | some operand =>
    obtain ⟨right, c₃, hr, h₃⟩ := bind_eq_value h₂
    cases h₃
    obtain ⟨ms, rfl, hms, first⟩ := ih.unary (by omega) ho
    have hl := first.length_le
    obtain ⟨us, rfl, hus, second⟩ := ih.tails (by omega) hr
    refine ⟨by simpa using known, us, rfl, fun hu => Or.inr ?_, operand, right, ms, first, second,
      rfl⟩
    exact (hus hu).elim (fun hm => (hms hm).elim hend id) id

theorem tails_sound {operator : Token} {right : N} {ts : List Token} {e : N} {c : Cursor}
    (ht : ts.length < total)
    (h : tails B (n + 1) operator right (facing failure total ts) = .value e c) :
    Leaves failure total ts c (Run B (.tails operator right) ts (.node e)) := by
  cases ts with
  | nil =>
    rw [tails_looser (by simp)] at h
    cases h
    exact ⟨[], rfl, fun _ => Or.inl rfl, .looser (by simp)⟩
  | cons t ts =>
    have ht' : ts.length + 1 < total := ht
    rw [tails, place_bind_apply] at h
    simp only [current_facing_cons] at h
    split at h
    · rename_i tighter
      rw [place_bind_apply] at h
      obtain ⟨extended, c₁, hs, h₁⟩ := bind_eq_value h
      rw [place_bind_apply] at h₁
      obtain ⟨ms, rfl, hms, step⟩ := ih.climb ht hs
      have hsuffix := step.suffix
      have hl := hsuffix.length_le
      simp only [List.length_cons] at hl
      -- The source ends here where the climb has pulled no token.
      by_cases hpulled : (facing failure total ms).pulled = (facing failure total (t :: ts)).pulled
      · rw [if_pos hpulled] at h₁
        cases h₁
        simp only [pulled_facing, List.length_cons] at hpulled
        obtain rfl : ms = t :: ts :=
          hsuffix.eq_of_length (by simp only [List.length_cons]; omega)
        exact ⟨_, rfl, fun hu => by simp at hu, .stuck tighter step⟩
      · rw [if_neg hpulled] at h₁
        simp only [pulled_facing, List.length_cons] at hpulled
        obtain ⟨us, rfl, hus, tail⟩ := ih.tails (by omega) h₁
        exact ⟨us, rfl, fun hu => (hus hu).elim hms Or.inr,
          .tighter tighter step (by omega) tail⟩
    · rename_i looser
      cases h
      refine ⟨t :: ts, rfl, by simp, .looser ?_⟩
      rintro u ⟨⟩
      exact looser

theorem unary_sound {ts : List Token} {e : N} {c : Cursor} (ht : ts.length < total)
    (h : unary B (n + 1) (facing failure total ts) = .value (some e) c) :
    Leaves failure total ts c (Run B .unary ts (.node e)) := by
  rw [unary, place_bind_apply] at h
  cases ts with
  | nil => cases h
  | cons t ts =>
    have ht' : ts.length + 1 < total := ht
    simp only [current_facing_cons] at h
    split at h
    · rename_i kind
      obtain ⟨us, rfl, hus, primary⟩ := ih.primary ht h
      exact ⟨us, rfl, hus, .atom kind primary⟩
    · rename_i kind
      simp only [ne_eq, Decidable.not_not] at kind
      obtain ⟨hend, h₁⟩ := advance_bind_eq_value (by omega) h
      rw [place_bind_apply] at h₁
      cases ts with
      | nil =>
        obtain ⟨known, us, rfl, hus, operand, node, ms, first, tail, rfl⟩ :=
          ih.prefixed (by omega) h₁
        exact ⟨us, rfl, fun hu => Or.inr ((hus hu).elim hend id),
          .prefixed kind (by simp) known first tail⟩
      | cons number ts =>
        simp only [current_facing_cons] at h₁
        simp only [List.length_cons] at ht'
        -- A sign and a number are one constant, of either kind of number.
        split at h₁
        · rename_i signed
          obtain ⟨value, hv, heq⟩ := map_eq_value h₁
          cases heq
          obtain ⟨value, rfl, reads, rfl, hend'⟩ := constant_eq_value (by omega) hv
          refine ⟨ts, rfl, fun hu => Or.inr (hend' hu),
            .signed kind signed.1 (Or.inl signed.2) ?_⟩
          rw [signedNumber?, if_pos signed.2, reads]
        split at h₁
        · rename_i signed
          obtain ⟨value, hv, heq⟩ := map_eq_value h₁
          cases heq
          obtain ⟨value, rfl, reads, rfl, hend'⟩ := constant_eq_value (by omega) hv
          refine ⟨ts, rfl, fun hu => Or.inr (hend' hu),
            .signed kind signed.1 (Or.inr signed.2) ?_⟩
          rw [signedNumber?, if_neg (by rw [signed.2]; decide), reads]
        · rename_i hinteger hdecimal
          obtain ⟨known, us, rfl, hus, operand, node, ms, first, tail, rfl⟩ :=
            ih.prefixed (by simp only [List.length_cons]; omega) h₁
          refine ⟨us, rfl, fun hu => Or.inr ((hus hu).elim (by simp) id),
            .prefixed kind ?_ known first tail⟩
          rintro u ⟨⟩ hsign (hk | hk)
          · exact hinteger ⟨hsign, hk⟩
          · exact hdecimal ⟨hsign, hk⟩

theorem prefixed_sound {operator : Token} {ts : List Token} {e : N} {c : Cursor}
    (ht : ts.length < total)
    (h : prefixed B (n + 1) operator (facing failure total ts) = .value (some e) c) :
    Symbol.isUnary operator.value = true ∧ Leaves failure total ts c fun us =>
      ∃ operand node ms, Run B .primary ts (.node operand) ms ∧
        Run B (.climb operand Symbol.tightest) ms (.node node) us ∧
        e = B.unary operator.value node := by
  rw [prefixed] at h
  split at h
  · cases h
  rename_i known
  obtain ⟨operand, c₁, ho, h₁⟩ := bind_eq_value h
  cases operand with
  | none => cases h₁
  | some operand =>
    obtain ⟨node, c₂, hn, h₂⟩ := bind_eq_value h₁
    cases h₂
    obtain ⟨ms, rfl, hms, first⟩ := ih.primary ht ho
    have hl := first.length_le
    obtain ⟨us, rfl, hus, tail⟩ := ih.climb (by omega) hn
    exact ⟨by simpa using known, us, rfl, fun hu => (hus hu).elim hms Or.inr, operand, node, ms,
      first, tail, rfl⟩

theorem ternary_sound {left : N} {mark : Token} {ts : List Token} {e : N} {c : Cursor}
    (ht : ts.length + 1 < total)
    (h : ternary B (n + 1) left (facing failure total (mark :: ts)) = .value e c) :
    Leaves failure total [mark] c fun us =>
      ∃ whenTrue whenFalse colon ms, Run B .expression ts (.node whenTrue) (colon :: ms) ∧
        colon.kind = .colon ∧ Run B .expression ms (.node whenFalse) us ∧
        e = B.ternary left whenTrue whenFalse := by
  rw [ternary] at h
  obtain ⟨_, c₁, hm, h₁⟩ := bind_eq_value h
  obtain ⟨t, rest, heq, -, rfl, -⟩ := expectSymbol_eq_value (by simp; omega) hm
  cases heq
  obtain ⟨whenTrue, c₂, ht₁, h₂⟩ := bind_eq_value h₁
  obtain ⟨_, c₃, hc, h₃⟩ := bind_eq_value h₂
  obtain ⟨whenFalse, c₄, hf, h₄⟩ := bind_eq_value h₃
  cases h₄
  obtain ⟨vs, rfl, -, first⟩ := ih.expression (by omega) ht₁
  have hl := first.length_le
  obtain ⟨colon, ms, rfl, colons, rfl, hms⟩ := expectKind_eq_value (by omega) hc
  simp only [List.length_cons] at hl
  obtain ⟨us, rfl, hus, second⟩ := ih.expression (by omega) hf
  exact ⟨us, rfl, fun hu => Or.inr ((hus hu).elim hms id), whenTrue, whenFalse, colon, ms, first,
    colons, second, rfl⟩

theorem primary_sound {ts : List Token} {e : N} {c : Cursor} (ht : ts.length < total)
    (h : primary B (n + 1) (facing failure total ts) = .value (some e) c) :
    Leaves failure total ts c (Run B .primary ts (.node e)) := by
  rw [primary, place_bind_apply] at h
  cases ts with
  | nil => cases h
  | cons t ts =>
    have ht' : ts.length + 1 < total := ht
    simp only [current_facing_cons] at h
    cases kind : t.kind <;> simp only [kind] at h
    case keyword =>
      split at h
      · rename_i value
        obtain ⟨hend, h₁⟩ := advance_bind_eq_value (by omega) h
        cases h₁
        exact ⟨ts, rfl, fun hu => Or.inr (hend hu), .this kind value⟩
      · split at h <;> cases h
    case identifier =>
      obtain ⟨hend, h₁⟩ := advance_bind_eq_value (by omega) h
      cases word : wordLiteral? t.value with
      | some value =>
        simp only [word] at h₁
        cases h₁
        exact ⟨ts, rfl, fun hu => Or.inr (hend hu), .constant (.word kind word)⟩
      | none =>
        simp only [word] at h₁
        obtain ⟨nodes, c₂, hn, h₂⟩ := bind_eq_value h₁
        cases nodes with
        | none =>
          obtain ⟨rfl, ends⟩ := ih.noArguments hn
          cases h₂
          exact ⟨ts, rfl, fun hu => Or.inr (hend hu), .name kind word ends⟩
        | some nodes =>
          obtain ⟨node, hb, heq⟩ := map_eq_value h₂
          cases heq
          obtain ⟨builds, rfl⟩ := ofExcept_eq_value hb
          obtain ⟨us, rfl, hus, opener, rest, rfl, opens, list⟩ := ih.arguments (by omega) hn
          exact ⟨us, rfl, fun hu => (hus hu).imp (by simp) id,
            .nameCall kind word opens list builds⟩
    case string =>
      obtain ⟨hend, h₁⟩ := advance_bind_eq_value (by omega) h
      cases h₁
      exact ⟨ts, rfl, fun hu => Or.inr (hend hu), .constant (.string kind)⟩
    case integer =>
      obtain ⟨value, hv, heq⟩ := map_eq_value h
      cases heq
      obtain ⟨value, rfl, reads, rfl, hend⟩ := constant_eq_value (by omega) hv
      exact ⟨ts, rfl, fun hu => Or.inr (hend hu), .constant (.integer kind reads)⟩
    case decimal =>
      obtain ⟨value, hv, heq⟩ := map_eq_value h
      cases heq
      obtain ⟨value, rfl, reads, rfl, hend⟩ := constant_eq_value (by omega) hv
      exact ⟨ts, rfl, fun hu => Or.inr (hend hu), .constant (.decimal kind reads)⟩
    case grouper =>
      have hsymbol {value : String} (hv : t.value = value) :
          t.isSymbol .grouper value = true := by simp [Token.isSymbol, kind, hv]
      -- Three brackets open a primary: those of parentheses, of a map and of a list.
      split at h
      · rename_i value
        obtain ⟨-, h₁⟩ := advance_bind_eq_value (by omega) h
        obtain ⟨inner, c₂, hi, h₂⟩ := bind_eq_value h₁
        obtain ⟨_, c₃, hc, h₃⟩ := bind_eq_value h₂
        cases h₃
        obtain ⟨vs, rfl, -, run⟩ := ih.expression (by omega) hi
        have hl := run.length_le
        obtain ⟨closer, us, rfl, closes, rfl, hus⟩ := expectSymbol_eq_value (by omega) hc
        exact ⟨us, rfl, fun hu => Or.inr (hus hu), .paren (hsymbol value) run closes⟩
      split at h
      · rename_i value
        obtain ⟨nodes, c₁, hn, h₁⟩ := bind_eq_value h
        cases h₁
        obtain ⟨us, rfl, hus, list⟩ := ih.entries ht' hn
        exact ⟨us, rfl, fun hu => (hus hu).imp (by simp) id, .map (hsymbol value) list⟩
      split at h
      · rename_i value
        obtain ⟨nodes, c₁, hn, h₁⟩ := bind_eq_value h
        cases h₁
        obtain ⟨us, rfl, hus, list⟩ := ih.items ht' hn
        exact ⟨us, rfl, fun hu => (hus hu).imp (by simp) id, .list (hsymbol value) list⟩
      · cases h
    case dot | comma | colon | operator => cases h

theorem arguments_sound {ts : List Token} {nodes : List N} {c : Cursor} (ht : ts.length < total)
    (h : arguments B (n + 1) (facing failure total ts) = .value (some nodes) c) :
    Leaves failure total ts c fun us => ∃ opener rest, ts = opener :: rest ∧
      opener.isSymbol .grouper "(" = true ∧ Run B (.items ")") rest (.items nodes) us := by
  rw [arguments, place_bind_apply] at h
  split at h
  · rename_i hs
    obtain ⟨opener, hu, opens⟩ := isSymbol_facing.mp hs
    obtain ⟨rest, rfl⟩ := List.head?_eq_some_iff.mp hu
    obtain ⟨nodes, hn, heq⟩ := map_eq_value h
    cases heq
    obtain ⟨us, rfl, hus, list⟩ := ih.items ht hn
    exact ⟨us, rfl, fun hu => (hus hu).imp (by simp) id, opener, rest, rfl, opens, list⟩
  · cases h

theorem subscript_sound {opener : Token} {ts : List Token} {e : N} {c : Cursor}
    (ht : ts.length + 1 < total)
    (h : subscript B (n + 1) (facing failure total (opener :: ts)) = .value e c) :
    Leaves failure total [opener] c fun us => ∃ closer,
      Run B .expression ts (.node e) (closer :: us) ∧ closer.isSymbol .grouper "]" = true := by
  rw [subscript] at h
  obtain ⟨_, c₁, ho, h₁⟩ := bind_eq_value h
  obtain ⟨t, rest, heq, -, rfl, -⟩ := expectSymbol_eq_value (by simp; omega) ho
  cases heq
  obtain ⟨argument, c₂, ha, h₂⟩ := bind_eq_value h₁
  obtain ⟨_, c₃, hc, h₃⟩ := bind_eq_value h₂
  cases h₃
  obtain ⟨vs, rfl, -, run⟩ := ih.expression (by omega) ha
  have hl := run.length_le
  obtain ⟨closer, us, rfl, closes, rfl, hus⟩ := expectSymbol_eq_value (by omega) hc
  exact ⟨us, rfl, fun hu => Or.inr (hus hu), closer, run, closes⟩

theorem items_sound {closer : String} {opener : Token} {ts : List Token} {nodes : List N}
    {c : Cursor} (ht : ts.length + 1 < total)
    (h : items B (n + 1) closer (facing failure total (opener :: ts)) = .value nodes c) :
    Leaves failure total [opener] c (Run B (.items closer) ts (.items nodes)) := by
  rw [items] at h
  obtain ⟨hend, h₁⟩ := advance_bind_eq_value (by omega) h
  rw [place_bind_apply] at h₁
  split at h₁
  · obtain ⟨_, c₂, hc, h₂⟩ := bind_eq_value h₁
    cases h₂
    obtain ⟨t, us, rfl, closes, rfl, hus⟩ := expectSymbol_eq_value (by omega) hc
    exact ⟨us, rfl, fun hu => Or.inr (hus hu), .itemsNone closes⟩
  rename_i hopens
  have opens : ∀ u ∈ ts.head?, u.isSymbol .grouper closer = false := fun u hu =>
    Bool.eq_false_iff.mpr fun hs => hopens (isSymbol_facing.mpr ⟨u, hu, hs⟩)
  obtain ⟨item, c₂, hi, h₂⟩ := bind_eq_value h₁
  obtain ⟨vs, rfl, -, run⟩ := ih.expression (by omega) hi
  have hl := run.length_le
  rw [place_bind_apply] at h₂
  split at h₂
  · rename_i hcomma
    obtain ⟨comma, hu, commas⟩ := isKind_facing.mp hcomma
    obtain ⟨ms, rfl⟩ := List.head?_eq_some_iff.mp hu
    simp only [List.length_cons] at hl
    obtain ⟨rest, c₃, hr, h₃⟩ := bind_eq_value h₂
    cases h₃
    obtain ⟨us, rfl, hus, more⟩ := ih.items (by omega) hr
    exact ⟨us, rfl, fun hu => (hus hu).imp (by simp) id, .itemsMore opens run commas more⟩
  · obtain ⟨_, c₃, hc, h₃⟩ := bind_eq_value h₂
    cases h₃
    obtain ⟨t, us, rfl, closes, rfl, hus⟩ := expectSymbol_eq_value (by omega) hc
    exact ⟨us, rfl, fun hu => Or.inr (hus hu), .itemsLast opens run closes⟩

theorem entries_sound {opener : Token} {ts : List Token} {nodes : List (String × N)} {c : Cursor}
    (ht : ts.length + 1 < total)
    (h : entries B (n + 1) (facing failure total (opener :: ts)) = .value nodes c) :
    Leaves failure total [opener] c (Run B .entries ts (.entries nodes)) := by
  rw [entries] at h
  obtain ⟨hend, h₁⟩ := advance_bind_eq_value (by omega) h
  rw [place_bind_apply] at h₁
  split at h₁
  · obtain ⟨_, c₂, hc, h₂⟩ := bind_eq_value h₁
    cases h₂
    obtain ⟨t, us, rfl, closes, rfl, hus⟩ := expectSymbol_eq_value (by omega) hc
    exact ⟨us, rfl, fun hu => Or.inr (hus hu), .entriesNone closes⟩
  cases ts with
  | nil => cases h₁
  | cons key ts =>
    rw [place_bind_apply] at h₁
    simp only [current_facing_cons] at h₁
    by_cases kind : key.kind = .string
    case neg =>
      rw [if_neg kind] at h₁
      cases h₁
    rw [if_pos kind] at h₁
    simp only [List.length_cons] at ht
    obtain ⟨-, h₂⟩ := advance_bind_eq_value (by omega) h₁
    obtain ⟨_, c₃, hc, h₃⟩ := bind_eq_value h₂
    obtain ⟨colon, ms, rfl, colons, rfl, -⟩ := expectKind_eq_value (by omega) hc
    simp only [List.length_cons] at ht
    obtain ⟨value, c₄, hv, h₄⟩ := bind_eq_value h₃
    obtain ⟨vs, rfl, -, run⟩ := ih.expression (by omega) hv
    have hl := run.length_le
    rw [place_bind_apply] at h₄
    split at h₄
    · rename_i hcomma
      obtain ⟨comma, hu, commas⟩ := isKind_facing.mp hcomma
      obtain ⟨ws, rfl⟩ := List.head?_eq_some_iff.mp hu
      simp only [List.length_cons] at hl
      obtain ⟨rest, c₅, hr, h₅⟩ := bind_eq_value h₄
      cases h₅
      obtain ⟨us, rfl, hus, more⟩ := ih.entries (by omega) hr
      exact ⟨us, rfl, fun hu => (hus hu).imp (by simp) id,
        .entriesMore kind colons run commas more⟩
    · obtain ⟨_, c₅, hc', h₅⟩ := bind_eq_value h₄
      cases h₅
      obtain ⟨t, us, rfl, closes, rfl, hus⟩ := expectSymbol_eq_value (by omega) hc'
      exact ⟨us, rfl, fun hu => Or.inr (hus hu), .entriesLast kind colons run closes⟩

end Step

/-- No success without fuel. -/
theorem sound_zero : Sound B failure total 0 where
  expression _ h := by cases h
  climb _ h := by cases h
  binary _ h := by cases h
  tails _ h := by cases h
  unary _ h := by cases h
  prefixed _ h := by cases h
  ternary _ h := by cases h
  primary _ h := by cases h
  noArguments h := by cases h
  arguments _ h := by cases h
  subscript _ h := by cases h
  items _ h := by cases h
  entries _ h := by cases h

/-- Every success is a run. -/
theorem sound (n : Nat) : Sound B failure total n := by
  induction n with
  | zero => exact sound_zero
  | succ n ih =>
    exact {
      expression := expression_sound ih
      climb := climb_sound ih
      binary := binary_sound ih
      tails := tails_sound ih
      unary := unary_sound ih
      prefixed := prefixed_sound ih
      ternary := ternary_sound ih
      primary := primary_sound ih
      noArguments := arguments_none
      arguments := arguments_sound ih
      subscript := subscript_sound ih
      items := items_sound ih
      entries := entries_sound ih }

/-! ## Whole sources -/

/-- The first token is asked for like any other. -/
theorem advance_ofStream {stream : Token.Stream}
    (hend : stream.tokens = [] → stream.failure = none) :
    advance (ofStream stream) =
      .value () (facing stream.failure (stream.tokens.length + 1) stream.tokens) := by
  rcases stream with ⟨ts, failure⟩
  cases ts with
  | nil =>
    simp only [forall_const] at hend
    simp [advance, ofStream, facing, hend]
  | cons t ts => simp [advance, ofStream, facing]

theorem failure_eq_none_of_advance {stream : Token.Stream} {c : Cursor}
    (h : advance (ofStream stream) = .value () c) :
    stream.tokens = [] → stream.failure = none := by
  rcases stream with ⟨ts, failure⟩
  rintro rfl
  cases failure with
  | none => rfl
  | some e => cases h

/-- A stream parses just if it does not fail and is a run of an expression. -/
theorem runStream_eq_value_iff {stream : Token.Stream} {e : N} :
    (∃ c, runStream B stream = .value e c) ↔
      stream.failure = none ∧ Run B .expression stream.tokens (.node e) [] := by
  constructor
  · rintro ⟨c, h⟩
    obtain ⟨_, c₁, ha, h₁⟩ := bind_eq_value h
    have hend := failure_eq_none_of_advance ha
    rw [advance_ofStream hend] at ha
    cases ha
    obtain ⟨node, c₂, hn, h₂⟩ := bind_eq_value h₁
    obtain ⟨us, rfl, hus, run⟩ := (sound _).expression (Nat.lt_succ_self _) hn
    rw [place_bind_apply] at h₂
    cases us with
    | cons u us => cases h₂
    | nil =>
      cases h₂
      exact ⟨(hus rfl).elim hend id, run⟩
  · rintro ⟨hf, run⟩
    rcases stream with ⟨ts, failure⟩
    obtain rfl : failure = none := hf
    have hp := performs run (Nat.lt_succ_self _) (fuelFor ts.length)
      (by simp only [Goal.fuel, fuelFor]; omega)
    have ha := @advance_ofStream ⟨ts, none⟩ (fun _ => rfl)
    refine ⟨facing none (ts.length + 1) [], ?_⟩
    simp only [Performs, Nat.succ_eq_add_one] at hp
    simp [runStream, complete, ha, hp]

end Parser

/-- A source parses to a tree just if its stream does not fail and is a run of
an expression that comes to the tree. -/
theorem parse_eq_ok_iff {N : Type} {B : Builder N} {source : String} {e : N} :
    parse B source = .ok e ↔ (Token.Stream.ofText source).failure = none ∧
      Parser.Run B .expression (Token.Stream.ofText source).tokens (.node e) [] := by
  rw [← Parser.runStream_eq_value_iff, parse]
  constructor
  · intro h
    split at h
    · rename_i node c hr
      cases h
      exact ⟨c, hr⟩
    · cases h
    · cases h
  · rintro ⟨c, hc⟩
    rw [hc]

end BindingLang
