import BindingLang.Proofs.Text.Search
/-!
  Cutting a text at a separator.

  Places of a separator may overlap, so only some of them cut: the first one, then the
  first that begins behind it, and so on. The places that cut are told here apart from
  the function that cuts, and the parts are what stands between them.

  What is proved:
    1. `exists_leftmost`, `Leftmost.unique` — in every text just one list of places cuts.
    2. `Leftmost.partsFrom_eq` — the parts are the pieces between these places.
    3. `Leftmost.not_occursAt` — no separator stands in a piece.
    4. `intercalate_parts` — the parts with the separator between them are the text.
-/

namespace BindingLang

namespace Text

variable {separator text : List Char} {start k : Nat} {places : List Nat}

/-! ## Places that cut -/

/-- The places from `start` on that are taken from left to right: the first one, and then
those from its end on. -/
inductive Leftmost (separator text : List Char) : Nat → List Nat → Prop where
  | none {start : Nat} (absent : ∀ j, start ≤ j → ¬ OccursAt separator text j) :
      Leftmost separator text start []
  | place {start p : Nat} {places : List Nat} (ahead : start ≤ p)
      (stands : OccursAt separator text p)
      (first : ∀ j, start ≤ j → j < p → ¬ OccursAt separator text j)
      (rest : Leftmost separator text (p + separator.length) places) :
      Leftmost separator text start (p :: places)

theorem occursAt_drop (h : start ≤ text.length) :
    OccursAt separator (text.drop start) k ↔ OccursAt separator text (start + k) := by
  rw [occursAt_iff_drop, occursAt_iff_drop, List.drop_drop, List.length_drop]
  refine and_congr_left' ?_
  omega

theorem exists_leftmost (hseparator : separator ≠ []) (h : start ≤ text.length) :
    ∃ places, Leftmost separator text start places := by
  -- A place that is taken uses up characters, so less of the text is left behind it.
  induction hleft : text.length - start using Nat.strong_induction_on generalizing start with
  | _ left ih =>
    cases hfind : find? separator (text.drop start) with
    | none =>
      refine ⟨[], .none ?_⟩
      intro j hj hoccurs
      obtain ⟨i, rfl⟩ := Nat.exists_eq_add_of_le hj
      exact absent_of_find? hfind i ((occursAt_drop h).mpr hoccurs)
    | some i =>
      obtain ⟨hplace, hfirst⟩ := first_of_find? hfind
      have hstands := (occursAt_drop h).mp hplace
      have hpos := List.length_pos_iff.mpr hseparator
      have hend := hstands.1
      obtain ⟨places, hplaces⟩ :=
        ih (text.length - (start + i + separator.length)) (by omega) hend rfl
      refine ⟨(start + i) :: places, .place (Nat.le_add_right start i) hstands ?_ hplaces⟩
      intro j hj hlt hoccurs
      obtain ⟨m, rfl⟩ := Nat.exists_eq_add_of_le hj
      exact hfirst m (by omega) ((occursAt_drop h).mpr hoccurs)

theorem Leftmost.unique {others : List Nat} (h : Leftmost separator text start places)
    (h' : Leftmost separator text start others) : places = others := by
  induction h generalizing others with
  | none absent =>
    cases h' with
    | none => rfl
    | place ahead stands => exact absurd stands (absent _ ahead)
  | @place start p places ahead stands first rest ih =>
    cases h' with
    | none absent => exact absurd stands (absent _ ahead)
    | @place _ q others ahead' stands' first' rest' =>
      obtain hlt | rfl | hlt := Nat.lt_trichotomy p q
      · exact absurd stands (first' p ahead hlt)
      · rw [ih rest']
      · exact absurd stands' (first q ahead' hlt)

/-! ## Pieces -/

/-- The pieces of the text from `start` on, between separators of `width` characters at
the places. -/
def pieces (text : List Char) (width : Nat) : Nat → List Nat → List (List Char)
  | start, [] => [text.drop start]
  | start, p :: places => text.extract start p :: pieces text width (p + width) places

theorem pieces_ne_nil (text : List Char) (width start : Nat) (places : List Nat) :
    pieces text width start places ≠ [] := by
  cases places with
  | nil => exact List.cons_ne_nil _ _
  | cons p places => exact List.cons_ne_nil _ _

theorem length_pieces (text : List Char) (width start : Nat) (places : List Nat) :
    (pieces text width start places).length = places.length + 1 := by
  induction places generalizing start with
  | nil => rfl
  | cons p places ih => rw [pieces, List.length_cons, List.length_cons, ih]

/-- What stands before a place is followed by the separator. -/
theorem OccursAt.drop_eq {p : Nat} (h : OccursAt separator text p) (hle : start ≤ p) :
    text.drop start =
      text.extract start p ++ separator ++ text.drop (p + separator.length) := by
  obtain ⟨hend, hstands⟩ := h
  have hsplit : text.drop p = separator ++ text.drop (p + separator.length) := by
    conv_lhs => rw [← List.take_append_drop separator.length (text.drop p), List.drop_drop]
    rw [List.extract, Nat.add_sub_cancel_left] at hstands
    rw [hstands]
  conv_lhs => rw [← List.take_append_drop (p - start) (text.drop start), List.drop_drop]
  rw [Nat.add_sub_cancel' hle, hsplit, List.append_assoc, List.extract]

/-- The pieces with the separator between them are the text again. -/
theorem Leftmost.intercalate_pieces (h : Leftmost separator text start places) :
    separator.intercalate (pieces text separator.length start places) = text.drop start := by
  induction h with
  | none absent => rw [pieces, List.intercalate_singleton]
  | place ahead stands first rest ih =>
    rw [pieces, List.intercalate_cons_of_ne_nil (pieces_ne_nil _ _ _ _), ih,
      ← stands.drop_eq ahead]

/-- No separator stands in a piece: its place in the text would have been taken. -/
theorem Leftmost.not_occursAt (hseparator : separator ≠ [])
    (h : Leftmost separator text start places) (hstart : start ≤ text.length) :
    ∀ part ∈ pieces text separator.length start places, ∀ j, ¬ OccursAt separator part j := by
  induction h with
  | none absent =>
    intro part hpart j hoccurs
    rw [pieces, List.mem_singleton] at hpart
    subst hpart
    exact absent _ (Nat.le_add_right _ j) ((occursAt_drop hstart).mp hoccurs)
  | @place start p places ahead stands first rest ih =>
    intro part hpart j hoccurs
    rw [pieces, List.mem_cons] at hpart
    obtain rfl | hpart := hpart
    · have hpos := List.length_pos_iff.mpr hseparator
      rw [occursAt_iff_drop, List.extract, List.length_take, List.length_drop,
        List.drop_take] at hoccurs
      have hplace : OccursAt separator (text.drop start) j := by
        rw [occursAt_iff_drop, List.length_drop]
        exact ⟨by omega, hoccurs.2.trans (List.take_prefix _ _)⟩
      exact first (start + j) (Nat.le_add_right start j) (by omega)
        ((occursAt_drop hstart).mp hplace)
    · exact ih stands.1 part hpart j hoccurs

/-! ## Parts -/

theorem partsFrom_skip (separator text : List Char) (skip : Nat) :
    partsFrom separator skip text = partsFrom separator 0 (text.drop skip) := by
  induction text generalizing skip with
  | nil => rw [List.drop_nil, partsFrom, partsFrom]
  | cons c text ih =>
    cases skip with
    | zero => rw [List.drop_zero]
    | succ skip => rw [partsFrom, ih, List.drop_succ_cons]

theorem partsFrom_of_absent (h : ∀ j, ¬ OccursAt separator text j) :
    partsFrom separator 0 text = [text] := by
  induction text with
  | nil => rw [partsFrom]
  | cons c text ih =>
    rw [partsFrom, if_neg (mt startsWith_iff.mp (h 0)),
      ih fun j hoccurs => h (j + 1) (occursAt_succ.mpr hoccurs), consFirst]

/-- Up to its first place a text is one part, and behind it the parts go on. -/
theorem partsFrom_of_first (hseparator : separator ≠ []) (hk : OccursAt separator text k)
    (hfirst : ∀ j < k, ¬ OccursAt separator text j) :
    partsFrom separator 0 text =
      text.take k :: partsFrom separator 0 (text.drop (k + separator.length)) := by
  induction text generalizing k with
  | nil => exact absurd (occursAt_nil.mp hk).2 hseparator
  | cons c text ih =>
    cases k with
    | zero =>
      obtain ⟨width, hwidth⟩ := Nat.exists_eq_succ_of_ne_zero (mt List.length_eq_zero_iff.mp
        hseparator)
      rw [partsFrom, if_pos (startsWith_iff.mpr hk), partsFrom_skip, hwidth, Nat.zero_add,
        Nat.succ_sub_one, List.drop_succ_cons, List.take_zero]
    | succ k =>
      have hrest := ih (occursAt_succ.mp hk) fun j hj hoccurs =>
        hfirst (j + 1) (Nat.succ_lt_succ hj) (occursAt_succ.mpr hoccurs)
      rw [partsFrom, if_neg (mt startsWith_iff.mp (hfirst 0 (Nat.succ_pos k))), hrest, consFirst,
        List.take_succ_cons, Nat.succ_add, List.drop_succ_cons]

/-- The parts are the pieces between the places that are taken. -/
theorem Leftmost.partsFrom_eq (hseparator : separator ≠ [])
    (h : Leftmost separator text start places) (hstart : start ≤ text.length) :
    partsFrom separator 0 (text.drop start) = pieces text separator.length start places := by
  induction h with
  | none absent =>
    rw [pieces]
    apply partsFrom_of_absent
    intro j hoccurs
    exact absent _ (Nat.le_add_right _ j) ((occursAt_drop hstart).mp hoccurs)
  | @place start p places ahead stands first rest ih =>
    obtain ⟨k, rfl⟩ := Nat.exists_eq_add_of_le ahead
    have hfirst : ∀ j < k, ¬ OccursAt separator (text.drop start) j := by
      intro j hj hoccurs
      exact first (start + j) (Nat.le_add_right start j) (by omega)
        ((occursAt_drop hstart).mp hoccurs)
    rw [partsFrom_of_first hseparator ((occursAt_drop hstart).mpr stands) hfirst, List.drop_drop,
      ← Nat.add_assoc, ih stands.1, pieces, List.extract, Nat.add_sub_cancel_left]

theorem parts_of_ne_nil (h : separator ≠ []) : parts separator text = partsFrom separator 0 text :=
  if_neg (mt List.isEmpty_iff.mp h)

theorem parts_nil (text : List Char) : parts [] text = text.map fun c => [c] :=
  if_pos rfl

theorem intercalate_nil_singletons (text : List Char) :
    ([] : List Char).intercalate (text.map fun c => [c]) = text := by
  induction text with
  | nil => rfl
  | cons c text ih =>
    by_cases htext : text = []
    · rw [htext]
      rfl
    · rw [List.map_cons, List.intercalate_cons_of_ne_nil (mt List.map_eq_nil_iff.mp htext), ih,
        List.append_nil, List.singleton_append]

/-- The parts with the separator between them are the text again. -/
theorem intercalate_parts (separator text : List Char) :
    separator.intercalate (parts separator text) = text := by
  by_cases hseparator : separator = []
  · rw [hseparator, parts_nil, intercalate_nil_singletons]
  · obtain ⟨places, hplaces⟩ := exists_leftmost hseparator (Nat.zero_le text.length)
    have heq := hplaces.partsFrom_eq hseparator (Nat.zero_le text.length)
    rw [List.drop_zero] at heq
    rw [parts_of_ne_nil hseparator, heq, hplaces.intercalate_pieces, List.drop_zero]

end Text

end BindingLang
