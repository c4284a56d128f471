import BindingLang.Proofs.Binary64.Position
import BindingLang.Proofs.Text.Search
import BindingLang.Value.Arithmetic
import BindingLang.Value.Builtin
/-!
  Positions in texts and arrays.

  A text is searched for a text, cut between two positions, and read at one, each in
  its own way: a search counts the characters before what it finds, a part is taken
  between numbers that are kept within the text, and a key is read as a position
  first. All of them count the same characters, so what one of them finds is what the
  others give back there.

  What is proved:
    1. `positionArgument_of_ne`, `positionArgument_of_isInteger` — an argument is a number
       kept within the text, and an integer up to `2^53` is itself.
    2. `standsAt_iff` — a part is the needle just where the search sees it.
    3. `firstPlace_find?`, `firstItem_findIdx?` — a search finds the first place.
    4. `index_of_isInteger` — a key that is an integer is a position, or it names nothing.
    5. `substring_comm`, `add_substring` — what holds of parts between any arguments.
    6. `positions_agree` — what they all say of one text, and of one array.
-/

namespace BindingLang

namespace Value

/-! ## Integers -/

/-- The integer as a value, where 64 bits hold it. -/
def ofInt (n : Int) : Value := .integer (Int64.ofInt n)

/-- Whether the value is the integer `k`, as an integer or as a float. -/
def IsInteger (k : Int) : Value → Prop
  | .integer n => n.toInt = k
  | .float x => ∃ e, Binary64.finite? x = some e ∧ e.value = k
  | _ => False

variable {key : Value} {k : Int}

theorem isInteger_ofInt (hlow : Integer.least ≤ k) (hhigh : k ≤ 2 ^ 53) :
    IsInteger k (ofInt k) :=
  Int64.toInt_ofInt_of_le hlow (hhigh.trans_lt (by decide))

theorem IsInteger.ne_undefined (hkey : IsInteger k key) : key ≠ .undefined := by
  rintro rfl
  exact hkey

/-- Up to `2^53` an integer that is read as a number is still the position that it is. -/
theorem IsInteger.toPosition_toNumber (hkey : IsInteger k key) (hhigh : k ≤ 2 ^ 53) :
    Binary64.toPosition key.toNumber = k.toNat := by
  cases key with
  | integer n =>
    cases hkey
    have hlow : Integer.least ≤ n.toInt := Int64.le_toInt n
    exact Binary64.toPosition_ofInt hlow hhigh
  | float x =>
    obtain ⟨e, hfinite, hvalue⟩ := hkey
    have hgreatest : (2 : Int) ^ 53 ≤ Binary64.greatestPosition := by decide
    have hbound : k.toNat ≤ Binary64.greatestPosition := Int.toNat_le.mpr (hhigh.trans hgreatest)
    show Binary64.toPosition x = _
    rw [Binary64.toPosition_of_value hfinite hvalue, Nat.min_eq_right hbound]
  | _ => exact hkey.elim

/-! ## Arguments -/

section Arguments

variable {arguments : List Value} {i default length : Nat} {a : Value}

theorem positionArgument_of_ne (h : arguments[i]? = some a) (ha : a ≠ .undefined) :
    positionArgument arguments i default length =
      min (Binary64.toPosition a.toNumber) length := by
  unfold positionArgument
  rw [h]
  cases a with
  | undefined => exact absurd rfl ha
  | _ => rfl

theorem positionArgument_of_isInteger (h : arguments[i]? = some key) (hkey : IsInteger k key)
    (hk : k ≤ length) (hlength : length < 2 ^ 53) :
    positionArgument arguments i default length = k.toNat := by
  have hhigh : k ≤ 2 ^ 53 := hk.trans (Int.ofNat_le.mpr hlength.le)
  rw [positionArgument_of_ne h hkey.ne_undefined, hkey.toPosition_toNumber hhigh,
    Nat.min_eq_left (Int.toNat_le.mpr hk)]

/-- No position is beyond the end. -/
theorem positionArgument_le (h : default ≤ length) :
    positionArgument arguments i default length ≤ length := by
  unfold positionArgument
  split
  · exact h
  · exact h
  · exact Nat.min_le_right _ _

end Arguments

/-! ## Parts -/

variable {s t : String}

theorem slice_eq_extract (cs : List Char) (a b : Nat) :
    slice cs a b = cs.extract (min a b) (max a b) := by
  rw [slice, List.drop_take, List.extract]

theorem slice_comm (cs : List Char) (a b : Nat) : slice cs a b = slice cs b a := by
  rw [slice, slice, Nat.max_comm, Nat.min_comm]

theorem substring_eq (s : String) (arguments : List Value) :
    substring s arguments = .string (String.ofList (slice s.toList
      (positionArgument arguments 0 0 s.length)
      (positionArgument arguments 1 s.length s.length))) := by
  rw [substring, String.length_toList]

/-- Between two integers within the text stands the part that they count off. -/
theorem substring_of_isInteger (hs : s.length < 2 ^ 53) {start stop : Value} {m : Int}
    (hstart : IsInteger k start) (hstop : IsInteger m stop) (hle : k ≤ m)
    (hm : m ≤ s.length) :
    substring s [start, stop] =
      .string (String.ofList (s.toList.extract k.toNat m.toNat)) := by
  have hpositions : k.toNat ≤ m.toNat := Int.toNat_le_toNat hle
  rw [substring_eq, positionArgument_of_isInteger rfl hstart (hle.trans hm) hs,
    positionArgument_of_isInteger rfl hstop hm hs, slice_eq_extract,
    Nat.min_eq_left hpositions, Nat.max_eq_right hpositions]

/-- Whether `t` is the part of `s` of its length from `k` on, and that part ends within
the text. -/
def StandsAt (s t : String) (k : Int) : Prop :=
  k + t.length ≤ s.length ∧
    (string s).callBuiltin "substring" [ofInt k, ofInt (k + t.length)] = .ok (.string t)

theorem standsAt_iff_extract (hs : s.length < 2 ^ 53) (hlow : Integer.least ≤ k) :
    StandsAt s t k ↔ k + t.length ≤ s.length ∧
      s.toList.extract k.toNat (k + t.length).toNat = t.toList := by
  show _ ∧ Except.ok (substring s [ofInt k, ofInt (k + t.length)]) = _ ↔ _
  refine and_congr_right fun hend => ?_
  rw [substring_of_isInteger hs (isInteger_ofInt hlow (by omega))
    (isInteger_ofInt (by omega) (by omega)) (by omega) hend, Except.ok.injEq, string.injEq,
    ← String.toList_inj, String.toList_ofList]

/-- Below zero nothing stands but the empty text, which is a part between any position
and itself. -/
theorem standsAt_iff (hs : s.length < 2 ^ 53) (hlow : Integer.least ≤ k) :
    StandsAt s t k ↔
      (0 ≤ k ∧ Text.OccursAt t.toList s.toList k.toNat) ∨ (k < 0 ∧ t = "") := by
  rw [standsAt_iff_extract hs hlow, Text.OccursAt, String.length_toList, String.length_toList]
  obtain hnonneg | hneg := le_or_gt 0 k
  · have hstop : (k + t.length).toNat = k.toNat + t.length := by omega
    rw [hstop]
    constructor
    · rintro ⟨hend, hpart⟩
      exact Or.inl ⟨hnonneg, by omega, hpart⟩
    · rintro (⟨-, hend, hpart⟩ | ⟨hneg, -⟩)
      · exact ⟨by omega, hpart⟩
      · omega
  · constructor
    · rintro ⟨hend, hpart⟩
      have hlength := congrArg List.length hpart
      rw [List.length_take, List.length_drop, String.length_toList, String.length_toList]
        at hlength
      exact Or.inr ⟨hneg, String.length_eq_zero_iff.mp (by omega)⟩
    · rintro (⟨hnonneg, -⟩ | ⟨-, rfl⟩)
      · omega
      · have hstop : (k + ("" : String).length).toNat = 0 := by
          rw [String.length_empty]
          omega
        rw [hstop, String.length_empty, List.extract, Nat.zero_sub, List.take_zero]
        exact ⟨by omega, rfl⟩

/-! ## Searches -/

/-- What a search of `s` for `t` answers, whether there is one and where: the place of
the first, or `-1`. Only the empty text stands before the beginning too. -/
inductive FirstPlace (s t : String) : Bool → Int → Prop where
  | absent (h : ∀ k, Integer.least ≤ k → ¬ StandsAt s t k) : FirstPlace s t false (-1)
  | found {i : Int} (hnonneg : 0 ≤ i) (hstands : StandsAt s t i)
      (hfirst : ∀ k, Integer.least ≤ k → k < i → (0 ≤ k ∨ t ≠ "") → ¬ StandsAt s t k) :
      FirstPlace s t true i

/-- The empty text is found at the beginning of a text, and the part between `-1` and itself
is empty too. -/
theorem empty_stands_before_beginning :
    "abc".length < 2 ^ 53 ∧
    (string "abc").callBuiltin "includes" [.string ""] = .ok (.boolean true) ∧
    (string "abc").callBuiltin "indexOf" [.string ""] = .ok (ofInt 0) ∧
    (-1 : Int) < 0 ∧ StandsAt "abc" "" (-1) := by
  have hstands : StandsAt "abc" "" (-1) :=
    (standsAt_iff (by decide) (by decide)).mpr (Or.inr ⟨by decide, rfl⟩)
  exact ⟨by decide, rfl, rfl, by decide, hstands⟩

/-- The place found as an integer. -/
def placeOf (found : Option Nat) : Int := found.elim (-1) Int.ofNat

theorem ofPlace_eq (found : Option Nat) : ofPlace found = ofInt (placeOf found) := by
  cases found with
  | none => rfl
  | some place => rfl

theorem firstPlace_find? (hs : s.length < 2 ^ 53) (t : String) :
    FirstPlace s t (Text.find? t.toList s.toList).isSome
      (placeOf (Text.find? t.toList s.toList)) := by
  cases hfind : Text.find? t.toList s.toList with
  | none =>
    have habsent := Text.absent_of_find? hfind
    apply FirstPlace.absent
    intro k hk hstands
    obtain ⟨-, hoccurs⟩ | ⟨-, rfl⟩ := (standsAt_iff hs hk).mp hstands
    · exact habsent _ hoccurs
    · exact habsent 0 (Text.occursAt_empty _)
  | some i =>
    obtain ⟨hoccurs, hfirst⟩ := Text.first_of_find? hfind
    have hnonneg : 0 ≤ (i : Int) := Int.natCast_nonneg i
    have hleast : Integer.least ≤ 0 := by decide
    apply FirstPlace.found hnonneg
    · rw [standsAt_iff hs (hleast.trans hnonneg)]
      exact Or.inl ⟨hnonneg, hoccurs⟩
    · intro k hk hlt hplace hstands
      change k < (i : Int) at hlt
      obtain ⟨hbegin, hbefore⟩ | ⟨hneg, hempty⟩ := (standsAt_iff hs hk).mp hstands
      · exact hfirst k.toNat (by omega) hbefore
      · obtain hbegin | hne := hplace
        · omega
        · exact hne hempty

/-- A text begins with what is found at its beginning. -/
theorem startsWith_eq (text needle : List Char) : Text.startsWith text needle =
    decide (placeOf (Text.find? needle text) = 0) := by
  rw [Bool.eq_iff_iff, Text.startsWith_iff, decide_eq_true_eq]
  cases hfind : Text.find? needle text with
  | none =>
    constructor
    · intro hstart
      exact absurd hstart (Text.absent_of_find? hfind 0)
    · intro hminus
      cases hminus
  | some i =>
    obtain ⟨hoccurs, hfirst⟩ := Text.first_of_find? hfind
    show Text.OccursAt needle text 0 ↔ (i : Int) = 0
    rw [Int.natCast_eq_zero]
    constructor
    · intro hstart
      by_contra hne
      exact hfirst 0 (Nat.pos_of_ne_zero hne) hstart
    · rintro rfl
      exact hoccurs

/-- A text ends with what its last part of that length is. -/
theorem endsWith_iff_substring (hs : s.length < 2 ^ 53) (t : String) :
    Text.endsWith s.toList t.toList = true ↔
      t.length ≤ s.length ∧ substring s [ofInt (s.length - t.length)] = .string t := by
  rw [Text.endsWith_iff, String.length_toList, String.length_toList]
  refine and_congr_right fun hle => ?_
  have hleast : Integer.least ≤ 0 := by decide
  have hstart : positionArgument [ofInt (s.length - t.length)] 0 0 s.length =
      s.length - t.length := by
    rw [positionArgument_of_isInteger rfl (isInteger_ofInt (by omega) (by omega)) (by omega) hs,
      ← Int.ofNat_sub hle, Int.toNat_natCast]
  have hstop : positionArgument [ofInt (s.length - t.length)] 1 s.length s.length =
      s.length := rfl
  rw [substring_eq, string.injEq, hstart, hstop, slice_eq_extract, ← String.toList_inj,
    String.toList_ofList, Text.OccursAt, String.length_toList, String.length_toList,
    Nat.sub_add_cancel hle, Nat.min_eq_left (Nat.sub_le _ _), Nat.max_eq_right (Nat.sub_le _ _)]
  exact and_iff_right (Nat.le_refl _)

/-! ## Keys -/

/-- From zero on an integer is a position; as far as a machine can count, its own. -/
theorem position?_of_nonneg (hkey : IsInteger k key) (hk : 0 ≤ k) :
    ∃ position, key.position? = some position ∧
      min position Binary64.greatestPosition = min k.toNat Binary64.greatestPosition := by
  cases key with
  | integer n =>
    cases hkey
    exact ⟨n.toInt.toNat, if_pos hk, rfl⟩
  | float x =>
    obtain ⟨e, hfinite, hvalue⟩ := hkey
    have hnonneg : x ≥ 0.0 := by
      rw [Binary64.nonneg_iff hfinite, hvalue]
      exact Int.cast_nonneg hk
    refine ⟨Binary64.toPosition x, ?_, ?_⟩
    · rw [position?, Binary64.isWhole_of_value hfinite hvalue, decide_eq_true hnonneg]
      rfl
    · rw [Binary64.toPosition_of_value hfinite hvalue, Nat.min_comm, ← Nat.min_assoc,
        Nat.min_self, Nat.min_comm]
  | _ => exact hkey.elim

theorem position?_of_neg (hkey : IsInteger k key) (hk : k < 0) : key.position? = none := by
  cases key with
  | integer n =>
    cases hkey
    exact if_neg (Int.not_le.mpr hk)
  | float x =>
    obtain ⟨e, hfinite, hvalue⟩ := hkey
    have hneg : ¬ x ≥ 0.0 := by
      rw [Binary64.nonneg_iff hfinite, hvalue, not_le]
      exact Int.cast_lt_zero.mpr hk
    rw [position?, decide_eq_false hneg, Bool.and_false]
    rfl
  | _ => exact hkey.elim

/-- The text of a negative integer starts with its sign, so it is the name of no member. -/
theorem text_ne_length (hkey : IsInteger k key) (hk : k < 0) : key.text ≠ "length" := by
  have hsign (cs : List Char) : String.ofList ('-' :: cs) ≠ "length" := by
    rw [ne_eq, ← String.toList_inj, String.toList_ofList]
    intro h
    cases h
  cases key with
  | integer n =>
    cases hkey
    obtain ⟨m, hm⟩ := Int.eq_negSucc_of_lt_zero hk
    have htext : toString n.toInt = String.ofList ('-' :: (Nat.repr m.succ).toList) := by
      rw [hm, ← String.toList_inj, String.toList_ofList]
      exact String.toList_append
    show toString n.toInt ≠ _
    rw [htext]
    exact hsign _
  | float x =>
    obtain ⟨e, hfinite, hvalue⟩ := hkey
    have hnegative : e.negative = true := by
      by_contra hpositive
      have hnonneg : 0 ≤ e.value := by
        rw [Binary64.Exact.value, if_neg hpositive]
        positivity
      rw [hvalue] at hnonneg
      exact absurd hk (Int.not_lt.mpr (Int.cast_nonneg_iff.mp hnonneg))
    show Binary64.toText x ≠ _
    rw [Binary64.toText, hfinite]
    dsimp only
    rw [if_pos hnegative]
    exact hsign _
  | _ => exact hkey.elim

/-- A key that is an integer is a position of the text, or it names nothing. -/
theorem index_of_isInteger (hs : s.length < 2 ^ 53) (hkey : IsInteger k key) :
    (string s).index key =
      if 0 ≤ k ∧ k < s.length then
        (string s).callBuiltin "substring" [key, ofInt (k + 1)]
      else .ok .undefined := by
  have hgreatest : Binary64.greatestPosition = 2 ^ 64 - 1 := rfl
  obtain hnonneg | hneg := le_or_gt 0 k
  · obtain ⟨position, hposition, hmin⟩ := position?_of_nonneg hkey hnonneg
    have hindex : (string s).index key = .ok (charAt s position) := by
      unfold index
      rw [hposition]
    rw [hindex, charAt]
    obtain hlt | hge := lt_or_ge k s.length
    · have hplace : position = k.toNat := by omega
      have hbound : k.toNat < s.toList.length := by
        rw [String.length_toList]
        omega
      have hcall : (string s).callBuiltin "substring" [key, ofInt (k + 1)] =
          .ok (substring s [key, ofInt (k + 1)]) := rfl
      have hlow : Integer.least ≤ 0 := by decide
      have hnext : IsInteger (k + 1) (ofInt (k + 1)) := isInteger_ofInt (by omega) (by omega)
      have hstop : (k + 1).toNat - k.toNat = 1 := by omega
      rw [if_pos ⟨hnonneg, hlt⟩, hcall, substring_of_isInteger hs hkey hnext (by omega) (by omega),
        hplace, List.getElem?_eq_getElem hbound, List.extract, hstop,
        List.drop_eq_getElem_cons hbound]
      rfl
    · have hend : s.toList.length ≤ position := by
        rw [String.length_toList]
        omega
      rw [List.getElem?_eq_none hend, if_neg (by omega)]
  · have hindex : (string s).index key = .ok .undefined := by
      unfold index
      rw [position?_of_neg hkey hneg]
      exact congrArg Except.ok (if_neg (text_ne_length hkey hneg))
    rw [hindex, if_neg (by omega)]

/-! ## Arguments of any kind -/

/-- The two positions of a part may come in either order. -/
theorem substring_comm (s : String) {a b : Value} (ha : a ≠ .undefined) (hb : b ≠ .undefined) :
    substring s [a, b] = substring s [b, a] := by
  have hfirst {x y : Value} (hx : x ≠ .undefined) : positionArgument [x, y] 0 0 s.length =
      min (Binary64.toPosition x.toNumber) s.length := positionArgument_of_ne rfl hx
  have hsecond {x y : Value} (hy : y ≠ .undefined) :
      positionArgument [x, y] 1 s.length s.length =
        min (Binary64.toPosition y.toNumber) s.length := positionArgument_of_ne rfl hy
  rw [substring_eq, substring_eq, slice_comm, hfirst ha, hsecond hb, hfirst hb, hsecond ha]

/-- What stands before a position and what stands from there on are the whole text. -/
theorem add_substring (s : String) {a : Value} (ha : a ≠ .undefined) :
    (substring s [ofInt 0, a]).add (substring s [a]) = .ok (.string s) := by
  have hzero : IsInteger 0 (ofInt 0) := isInteger_ofInt (by decide) (by decide)
  have hbegin : positionArgument [ofInt 0, a] 0 0 s.length = 0 := by
    rw [positionArgument_of_ne rfl hzero.ne_undefined, hzero.toPosition_toNumber (by decide)]
    exact Nat.zero_min _
  have hend : positionArgument [a] 1 s.length s.length = s.length := rfl
  rw [substring_eq, substring_eq, hbegin, hend, positionArgument_of_ne rfl ha,
    positionArgument_of_ne rfl ha]
  generalize hcut : min (Binary64.toPosition a.toNumber) s.length = cut
  have hle : cut ≤ s.length := hcut ▸ Nat.min_le_right _ _
  have hfront : slice s.toList 0 cut = s.toList.take cut := by
    rw [slice, Nat.max_eq_right (Nat.zero_le _), Nat.min_eq_left (Nat.zero_le _), List.drop_zero]
  have hrear : slice s.toList cut s.length = s.toList.drop cut := by
    rw [slice, Nat.max_eq_right hle, Nat.min_eq_left hle, ← String.length_toList,
      List.take_length]
  show Except.ok (Value.string (_ ++ _)) = _
  rw [hfront, hrear, text, text, ← String.ofList_append, List.take_append_drop,
    String.ofList_toList]

/-! ## Items -/

/-- What a search of the items for `v` answers, whether there is one and where: the place
of the first that is strictly equal, or `-1`. -/
inductive FirstItem (items : List Value) (v : Value) : Bool → Int → Prop where
  | absent (h : ∀ item ∈ items, item.strictEquals v = false) : FirstItem items v false (-1)
  | found {k : Nat} {item : Value} (hitem : items[k]? = some item)
      (hequal : item.strictEquals v = true)
      (hfirst : ∀ j < k, ∀ other, items[j]? = some other → other.strictEquals v = false) :
      FirstItem items v true k

theorem firstItem_findIdx? (items : List Value) (v : Value) :
    FirstItem items v (items.any fun item => item.strictEquals v)
      (placeOf (items.findIdx? fun item => item.strictEquals v)) := by
  cases hfind : items.findIdx? fun item => item.strictEquals v with
  | none =>
    rw [List.findIdx?_eq_none_iff] at hfind
    have hany : (items.any fun item => item.strictEquals v) = false := by
      rw [List.any_eq_false]
      intro item hitem
      rw [hfind item hitem]
      exact Bool.false_ne_true
    rw [hany]
    exact FirstItem.absent hfind
  | some k =>
    obtain ⟨hlt, hequal, hfirst⟩ := List.findIdx?_eq_some_iff_getElem.mp hfind
    have hany : (items.any fun item => item.strictEquals v) = true :=
      List.any_eq_true.mpr ⟨items[k], List.getElem_mem hlt, hequal⟩
    rw [hany]
    apply FirstItem.found (List.getElem?_eq_getElem hlt) hequal
    intro j hj other hother
    obtain ⟨_, rfl⟩ := List.getElem?_eq_some_iff.mp hother
    exact Bool.eq_false_iff.mpr (hfirst j hj)

/-- A place among items that 64 bits can number is not negative just if it is one. -/
theorem FirstItem.found_iff {items : List Value} {v : Value} {found : Bool} {i : Int}
    (h : FirstItem items v found i) (hitems : items.length < 2 ^ 63) :
    found = true ↔ 0 ≤ (Int64.ofInt i).toInt := by
  cases h with
  | absent _ =>
    constructor
    · intro hfalse
      cases hfalse
    · intro hminus
      exact absurd hminus (by decide)
  | @found k item hitem _ _ =>
    obtain ⟨hlt, -⟩ := List.getElem?_eq_some_iff.mp hitem
    rw [Int64.toInt_ofInt_of_le (by omega) (by omega)]
    exact iff_of_true rfl (Int.natCast_nonneg k)

end Value

open Value in
/-- All that is counted in positions agrees. In a text `s` whose length a float holds, a
search for `t` finds the first place where the part of its length is `t`, which it begins
with just at zero and ends with just where its last part is; a key that is an integer is
the part of length one there, or nothing. Parts are taken between any two arguments, in
either order, never beyond the end, and any cut leaves the whole. In an array the first
item strictly equal is found. -/
theorem positions_agree {s : String} (hs : s.length < 2 ^ 53) (t : String)
    (items : List Value) (v : Value) :
    (string s).member "length" = .ok (ofInt s.length) ∧
    (∃ found i,
      (string s).callBuiltin "includes" [.string t] = .ok (.boolean found) ∧
      (string s).callBuiltin "indexOf" [.string t] = .ok (ofInt i) ∧
      (string s).callBuiltin "startsWith" [.string t] = .ok (.boolean (decide (i = 0))) ∧
      FirstPlace s t found i) ∧
    (∃ ends,
      (string s).callBuiltin "endsWith" [.string t] = .ok (.boolean ends) ∧
      (ends = true ↔ t.length ≤ s.length ∧
        (string s).callBuiltin "substring" [ofInt (s.length - t.length)] = .ok (.string t))) ∧
    (∀ key k, IsInteger k key → (string s).index key =
      if 0 ≤ k ∧ k < s.length then
        (string s).callBuiltin "substring" [key, ofInt (k + 1)]
      else .ok .undefined) ∧
    (∀ a b, a ≠ .undefined → b ≠ .undefined →
      (string s).callBuiltin "substring" [a, b] = (string s).callBuiltin "substring" [b, a]) ∧
    (∀ a, a ≠ .undefined → ∃ before after,
      (string s).callBuiltin "substring" [ofInt 0, a] = .ok before ∧
      (string s).callBuiltin "substring" [a] = .ok after ∧
      before.add after = .ok (.string s)) ∧
    (∀ arguments, ∃ start ≤ s.length, ∃ stop ≤ s.length,
      positionArgument arguments 0 0 s.length = start ∧
      positionArgument arguments 1 s.length s.length = stop ∧
      (string s).callBuiltin "substring" arguments =
        .ok (.string (String.ofList (s.toList.extract (min start stop) (max start stop))))) ∧
    ∃ found i,
      (array items).callBuiltin "includes" [v] = .ok (.boolean found) ∧
      (array items).callBuiltin "indexOf" [v] = .ok (ofInt i) ∧
      FirstItem items v found i ∧
      (items.length < 2 ^ 63 → (found = true ↔ 0 ≤ (Int64.ofInt i).toInt)) := by
  refine ⟨?_, ?_, ?_, ?_, ?_, ?_, ?_, ?_⟩
  · show Except.ok (ofLength s.toList.length) = _
    rw [String.length_toList]
    rfl
  · refine ⟨_, _, rfl, ?_, ?_, firstPlace_find? hs t⟩
    · exact congrArg Except.ok (ofPlace_eq _)
    · exact congrArg (fun starts => Except.ok (boolean starts)) (startsWith_eq _ _)
  · refine ⟨_, rfl, ?_⟩
    rw [endsWith_iff_substring hs t]
    refine and_congr_right fun _ => ?_
    exact ⟨congrArg Except.ok, Except.ok.inj⟩
  · intro key k hkey
    exact index_of_isInteger hs hkey
  · intro a b ha hb
    exact congrArg Except.ok (substring_comm s ha hb)
  · intro a ha
    exact ⟨_, _, rfl, rfl, add_substring s ha⟩
  · intro arguments
    refine ⟨_, positionArgument_le (Nat.zero_le _), _, positionArgument_le (Nat.le_refl _),
      rfl, rfl, ?_⟩
    show Except.ok (substring s arguments) = _
    rw [substring_eq, slice_eq_extract]
  · have hfirst := firstItem_findIdx? items v
    exact ⟨_, _, rfl, congrArg Except.ok (ofPlace_eq _), hfirst, hfirst.found_iff⟩

open Value in
/-- Two places that overlap, after characters of more than one byte. -/
theorem positions_agree_sample :
    "naïïïf".length < 2 ^ 53 ∧
    (∃ i, (string "naïïïf").callBuiltin "indexOf" [.string "ïï"] = .ok (ofInt i) ∧
      FirstPlace "naïïïf" "ïï" true i) ∧
    (string "naïïïf").index (.integer 2) =
      (string "naïïïf").callBuiltin "substring" [.integer 2, ofInt 3] ∧
    ∃ i, (array [.null, .string "1", .integer 1]).callBuiltin "indexOf" [.boolean true] =
        .ok (ofInt i) ∧
      FirstItem [.null, .string "1", .integer 1] (.boolean true) false i := by
  have hlength : "naïïïf".length < 2 ^ 53 := by decide
  obtain ⟨-, ⟨found, i, hincludes, hindex, -, hplace⟩, -, hkeys, -, -, -,
    inArray, place, hin, hat, hitem, -⟩ :=
    positions_agree hlength "ïï" [.null, .string "1", .integer 1] (.boolean true)
  refine ⟨hlength, ⟨i, hindex, ?_⟩, ?_, place, hat, ?_⟩
  · cases hincludes
    exact hplace
  · exact hkeys (.integer 2) 2 rfl
  · cases hin
    exact hitem

end BindingLang
