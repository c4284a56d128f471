import BindingLang.Expr.Cursor
/-!
  Parsers as functions of the cursor, and cursors as what is left of a stream.

  Once the first token has been asked for, a cursor is known by the tokens that
  are left, the error that ends the stream, and the number of tokens asked for
  so far. `Cursor.facing` makes a cursor of these; it is given the number of
  tokens that will have been asked for at the end, which stays the same all the
  way.

  What is proved:
    1. `bind_apply` and its like — what each combinator does at a cursor.
    2. `bind_eq_value`, `map_eq_value` — a success of a combination comes from
       successes of its parts.
    3. `advance_facing`, `advance_eq_value` — asking for a token drops the one
       looked at.
-/

namespace BindingLang

/-- The cursor with the tokens `ts` left, where `total` tokens will have been
asked for at the end of the stream. -/
def Cursor.facing (failure : Option LexError) (total : Nat) (ts : List Token) : Cursor :=
  ⟨ts.head?, ts.tail, failure, total - ts.length⟩

namespace Parser

variable {α β : Type}

@[simp] theorem pure_apply (a : α) (c : Cursor) : (pure a : Parser α) c = .value a c := rfl

@[simp] theorem bind_apply (p : Parser α) (f : α → Parser β) (c : Cursor) :
    (p >>= f) c = match p c with
      | .value a c => f a c
      | .error e c => .error e c
      | .exhausted => .exhausted := rfl

@[simp] theorem map_apply (f : α → β) (p : Parser α) (c : Cursor) :
    (f <$> p) c = match p c with
      | .value a c => .value (f a) c
      | .error e c => .error e c
      | .exhausted => .exhausted := rfl

@[simp] theorem place_apply (c : Cursor) : place c = .value c c := rfl

@[simp] theorem fail_apply (e : ParseError) (c : Cursor) : (fail e : Parser α) c = .error e c := rfl

@[simp] theorem exhausted_apply (c : Cursor) : (exhausted : Parser α) c = .exhausted := rfl

@[simp] theorem unexpected_apply (expected : String) (c : Cursor) :
    (unexpected expected : Parser α) c = .error (.unexpectedToken expected c.found) c := rfl

@[simp] theorem ofExcept_ok_apply (a : α) (c : Cursor) : ofExcept (.ok a) c = .value a c := rfl

@[simp] theorem ofExcept_error_apply (e : ParseError) (c : Cursor) :
    (ofExcept (.error e) : Parser α) c = .error e c := rfl

/-- What follows a look at the cursor is run at that very cursor. -/
@[simp] theorem place_bind_apply (f : Cursor → Parser α) (c : Cursor) :
    (place >>= f) c = f c c := rfl

theorem bind_eq_value {p : Parser α} {f : α → Parser β} {c c' : Cursor} {b : β}
    (h : (p >>= f) c = .value b c') : ∃ a c₁, p c = .value a c₁ ∧ f a c₁ = .value b c' := by
  rw [bind_apply] at h
  split at h
  · rename_i a c₁ hp; exact ⟨a, c₁, hp, h⟩
  · cases h
  · cases h

theorem map_eq_value {f : α → β} {p : Parser α} {c c' : Cursor} {b : β}
    (h : (f <$> p) c = .value b c') : ∃ a, p c = .value a c' ∧ f a = b := by
  rw [map_apply] at h
  split at h
  · rename_i a c₁ hp; cases h; exact ⟨a, hp, rfl⟩
  · cases h
  · cases h

theorem ofExcept_eq_value {r : Except ParseError α} {c c' : Cursor} {a : α}
    (h : ofExcept r c = .value a c') : r = .ok a ∧ c' = c := by
  cases r with
  | ok b => cases h; exact ⟨rfl, rfl⟩
  | error e => cases h

section Facing

variable {failure : Option LexError} {total : Nat} {t : Token} {ts : List Token}

open Cursor

@[simp] theorem current_facing_nil : (facing failure total []).current = none := rfl

@[simp] theorem current_facing_cons : (facing failure total (t :: ts)).current = some t := rfl

@[simp] theorem pulled_facing : (facing failure total ts).pulled = total - ts.length := rfl

theorem isSymbol_facing {kind : Token.Kind} {value : String} :
    (facing failure total ts).isSymbol kind value = true ↔
      ∃ t ∈ ts.head?, t.isSymbol kind value = true := by
  cases ts <;> simp [isSymbol, facing]

theorem isKind_facing {kind : Token.Kind} :
    (facing failure total ts).isKind kind = true ↔ ∃ t ∈ ts.head?, t.kind = kind := by
  cases ts <;> simp [isKind, facing]

/-- Before the last token of a stream that fails the next one is refused. -/
theorem advance_facing (hlt : ts.length < total) (hend : ts = [] → failure = none) :
    advance (facing failure total (t :: ts)) = .value () (facing failure total ts) := by
  cases ts with
  | nil =>
    simp only [List.length_nil] at hlt
    simp only [advance, facing, List.tail_cons, hend rfl, List.length_cons, List.length_nil]
    rw [show total - (0 + 1) + 1 = total - 0 by omega]
    rfl
  | cons u us =>
    simp only [List.length_cons] at hlt
    simp only [advance, facing, List.tail_cons, List.length_cons, List.head?_cons]
    rw [show total - (us.length + 1 + 1) + 1 = total - (us.length + 1) by omega]

theorem advance_eq_value {c' : Cursor} (hlt : ts.length < total)
    (h : advance (facing failure total (t :: ts)) = .value () c') :
    c' = facing failure total ts ∧ (ts = [] → failure = none) := by
  have hend : ts = [] → failure = none := by
    rintro rfl
    cases failure with
    | none => rfl
    | some e => cases h
  rw [advance_facing hlt hend] at h
  cases h
  exact ⟨rfl, hend⟩

/-- What follows a step to the next token runs from that token. -/
theorem advance_bind_eq_value {f : Unit → Parser α} {a : α} {c' : Cursor} (hlt : ts.length < total)
    (h : (advance >>= f) (facing failure total (t :: ts)) = .value a c') :
    (ts = [] → failure = none) ∧ f () (facing failure total ts) = .value a c' := by
  obtain ⟨⟨⟩, c₁, hadvance, hrest⟩ := bind_eq_value h
  obtain ⟨rfl, hend⟩ := advance_eq_value hlt hadvance
  exact ⟨hend, hrest⟩

theorem expectSymbol_facing {kind : Token.Kind} {value : String}
    (ht : t.isSymbol kind value = true) (hlt : ts.length < total)
    (hend : ts = [] → failure = none) :
    expectSymbol kind value (facing failure total (t :: ts)) =
      .value () (facing failure total ts) := by
  simp only [expectSymbol, place_bind_apply]
  rw [if_pos (isSymbol_facing.mpr ⟨t, rfl, ht⟩)]
  exact advance_facing hlt hend

theorem expectKind_facing {kind : Token.Kind} (ht : t.kind = kind) (hlt : ts.length < total)
    (hend : ts = [] → failure = none) :
    expectKind kind (facing failure total (t :: ts)) = .value () (facing failure total ts) := by
  simp only [expectKind, place_bind_apply]
  rw [if_pos (isKind_facing.mpr ⟨t, rfl, ht⟩)]
  exact advance_facing hlt hend

theorem expectSymbol_eq_value {kind : Token.Kind} {value : String} {c' : Cursor}
    (hlt : ts.length < total + 1)
    (h : expectSymbol kind value (facing failure total ts) = .value () c') :
    ∃ t us, ts = t :: us ∧ t.isSymbol kind value = true ∧ c' = facing failure total us ∧
      (us = [] → failure = none) := by
  simp only [expectSymbol, place_bind_apply] at h
  split at h
  · rename_i hs
    obtain ⟨t, ht, hs⟩ := isSymbol_facing.mp hs
    obtain ⟨us, rfl⟩ := List.head?_eq_some_iff.mp ht
    have := advance_eq_value (by simp at hlt; omega) h
    exact ⟨t, us, rfl, hs, this⟩
  · cases h

theorem expectKind_eq_value {kind : Token.Kind} {c' : Cursor} (hlt : ts.length < total + 1)
    (h : expectKind kind (facing failure total ts) = .value () c') :
    ∃ t us, ts = t :: us ∧ t.kind = kind ∧ c' = facing failure total us ∧
      (us = [] → failure = none) := by
  simp only [expectKind, place_bind_apply] at h
  split at h
  · rename_i hs
    obtain ⟨t, ht, hk⟩ := isKind_facing.mp hs
    obtain ⟨us, rfl⟩ := List.head?_eq_some_iff.mp ht
    have := advance_eq_value (by simp at hlt; omega) h
    exact ⟨t, us, rfl, hk, this⟩
  · cases h

end Facing

end Parser

end BindingLang
