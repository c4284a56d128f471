import BindingLang.Json.Convert
import BindingLang.Proofs.Dict
import BindingLang.Value.Arithmetic
import BindingLang.Value.Builtin
/-!
  Mentions: the scopes that stand in a value.

  A value mentions a scope that it is, and those that its items and entries
  mention, however deep; what the links of such a scope bind is not looked at. A
  plain value mentions none. Operators, built-in methods and documents make plain
  values, so the scopes that an evaluation comes to are scopes it was given.

  What is proved:
    1. `plain_ofJson` — the value of a document is plain.
    2. `plain_combine`, `plain_compare`, `plain_negate`, `plain_callBuiltin` — so
       is what arithmetic, comparisons and built-in methods come to.
    3. `sizeOf_of_mentions` — a value that mentions a scope is the larger one.
-/

namespace BindingLang

namespace Value

/-- Whether the scope stands in the value, however deep within arrays and
objects. -/
inductive Mentions : Value → Scope → Prop where
  | scope (scope : Scope) : Mentions (.scope scope) scope
  | item {items : List Value} {item : Value} {scope : Scope} (mem : item ∈ items)
      (mentions : Mentions item scope) : Mentions (.array items) scope
  | entry {entries : List (String × Value)} {entry : String × Value} {scope : Scope}
      (mem : entry ∈ entries) (mentions : Mentions entry.2 scope) : Mentions (.object entries) scope

/-- Whether every scope that stands in the value is one of these. -/
def MentionsOnly (value : Value) (these : Scope → Prop) : Prop :=
  ∀ scope, value.Mentions scope → these scope

/-- Whether no scope stands in the value. -/
def Plain (value : Value) : Prop := value.MentionsOnly fun _ => False

theorem sizeOf_of_mentions {value : Value} {scope : Scope} (h : value.Mentions scope) :
    sizeOf scope < sizeOf value := by
  induction h with
  | scope scope => simp
  | item mem _ ih =>
    have := List.sizeOf_lt_of_mem mem
    simp only [array.sizeOf_spec]
    omega
  | @entry entries entry scope mem _ ih =>
    have := List.sizeOf_lt_of_mem mem
    obtain ⟨key, value⟩ := entry
    simp only [object.sizeOf_spec, Prod.mk.sizeOf_spec] at *
    omega

namespace MentionsOnly

variable {these those : Scope → Prop}

theorem mono {value : Value} (h : value.MentionsOnly these)
    (hsub : ∀ scope, these scope → those scope) : value.MentionsOnly those :=
  fun scope hm => hsub scope (h scope hm)

theorem scope' {scope : Scope} (h : these scope) : MentionsOnly (.scope scope) these := by
  rintro _ ⟨⟩
  exact h

theorem array' {items : List Value} (h : ∀ item ∈ items, item.MentionsOnly these) :
    MentionsOnly (.array items) these := by
  rintro scope (_ | ⟨hi, hm⟩ | _)
  exact h _ hi scope hm

theorem object' {entries : List (String × Value)} (h : ∀ entry ∈ entries, entry.2.MentionsOnly these) :
    MentionsOnly (.object entries) these := by
  rintro scope (_ | _ | ⟨he, hm⟩)
  exact h _ he scope hm

theorem item {items : List Value} {item : Value} (h : MentionsOnly (.array items) these)
    (hi : item ∈ items) : item.MentionsOnly these :=
  fun scope hm => h scope (.item hi hm)

theorem entry {entries : List (String × Value)} {entry : String × Value}
    (h : MentionsOnly (.object entries) these) (he : entry ∈ entries) :
    entry.2.MentionsOnly these :=
  fun scope hm => h scope (.entry he hm)

end MentionsOnly

/-! ## Plain values -/

section Plain

theorem Plain.mentionsOnly {value : Value} (h : value.Plain) (these : Scope → Prop) :
    value.MentionsOnly these :=
  h.mono fun _ => False.elim

theorem plain_undefined : Plain .undefined := nofun

theorem plain_boolean (b : Bool) : Plain (.boolean b) := nofun

theorem plain_integer (n : Int64) : Plain (.integer n) := nofun

theorem plain_float (x : Float) : Plain (.float x) := nofun

theorem plain_string (s : String) : Plain (.string s) := nofun

theorem plain_ofLiteral (constant : Literal) : (ofLiteral constant).Plain := by
  cases constant <;> exact nofun

mutual

theorem plain_ofJson : (document : Json) → (ofJson document).Plain
  | .null => nofun
  | .boolean b => plain_boolean b
  | .integer n => plain_integer n
  | .float x => plain_float x
  | .string s => plain_string s
  | .array items => .array' (plain_itemsOfJson items)
  | .object entries => .object' (plain_entriesOfJson entries)

theorem plain_itemsOfJson : (items : List Json) → ∀ item ∈ itemsOfJson items, item.Plain
  | item :: items, _, h => by
    obtain rfl | h := List.mem_cons.mp h
    · exact plain_ofJson item
    · exact plain_itemsOfJson items _ h

theorem plain_entriesOfJson : (entries : List (String × Json)) →
    ∀ entry ∈ entriesOfJson entries, entry.2.Plain
  | (_, document) :: entries, _, h => by
    obtain rfl | h := List.mem_cons.mp h
    · exact plain_ofJson document
    · exact plain_entriesOfJson entries _ h

end

/-! ## Results of operations -/

theorem plain_numbers {operation : Arithmetic} {a b : Number} {result : Value}
    (h : operation.numbers a b = .ok result) : result.Plain := by
  have hscaled : ∀ d : Scaled, (Arithmetic.valueOfScaled d).Plain := by
    intro d
    unfold Arithmetic.valueOfScaled
    split <;> exact nofun
  have hmixed : ∀ x y : Float, (operation.mixed x y).Plain := by
    intro x y
    unfold Arithmetic.mixed
    extract_lets decimal
    cases decimal
    · exact nofun
    · exact hscaled _
  cases a with
  | integer a =>
    cases b with
    | integer b =>
      simp only [Arithmetic.numbers, Arithmetic.integers] at h
      split at h
      · cases h
      · split at h <;> cases h <;> exact nofun
    | float b => cases h; exact hmixed _ _
  | float a =>
    cases b with
    | integer b => cases h; exact hmixed _ _
    | float b => cases h; exact nofun

theorem plain_combine {operation : Arithmetic} {left right result : Value}
    (h : combine operation left right = .ok result) : result.Plain := by
  unfold combine at h
  split at h
  · exact plain_numbers h
  · cases h

theorem plain_add {left right result : Value} (h : left.add right = .ok result) :
    result.Plain := by
  unfold add at h
  split at h
  · cases h; exact nofun
  · exact plain_combine h

theorem plain_compare {comparison : Comparison} {left right result : Value}
    (h : compare comparison left right = .ok result) : result.Plain := by
  unfold compare at h
  split at h
  · cases h; exact nofun
  · cases h; exact nofun
  · split at h
    · cases h; exact nofun
    · cases h

theorem plain_negate {operand result : Value} (h : operand.negate = .ok result) :
    result.Plain := by
  unfold negate at h
  split at h
  · split at h <;> cases h <;> exact nofun
  all_goals cases h
  all_goals exact nofun

theorem plain_split (s separator : String) : (split s separator).Plain := by
  refine .array' fun item hi => ?_
  obtain ⟨part, -, rfl⟩ := List.mem_map.mp hi
  exact plain_string _

theorem plain_ofPlace (place : Option Nat) : (ofPlace place).Plain := by
  cases place <;> exact nofun

/-- Whether a method, if there is one, and if it has a result, comes to a plain
value. -/
def PlainMethod (outcome : Option (Except EvalError Value)) : Prop :=
  ∀ result, outcome = some (.ok result) → result.Plain

namespace PlainMethod

theorem none' : PlainMethod none := nofun

theorem ok' {value : Value} (h : value.Plain) : PlainMethod (some (.ok value)) := by
  rintro _ ⟨⟩
  exact h

theorem ite' {c : Prop} [Decidable c] {a b : Option (Except EvalError Value)}
    (ha : PlainMethod a) (hb : PlainMethod b) : PlainMethod (if c then a else b) := by
  split
  · exact ha
  · exact hb

theorem bind' {outcome : Except EvalError String} {f : String → Except EvalError Value}
    (h : ∀ s, PlainMethod (some (f s))) : PlainMethod (some (outcome.bind f)) := by
  cases outcome with
  | error e => exact nofun
  | ok s => exact h s

theorem map' {outcome : Except EvalError String} {f : String → Value} (h : ∀ s, (f s).Plain) :
    PlainMethod (some (outcome.map f)) :=
  bind' (f := fun s => .ok (f s)) fun s => ok' (h s)

theorem matchesPattern' (s pattern : String) : PlainMethod (some (matchesPattern s pattern)) := by
  unfold matchesPattern
  split
  · exact ok' (plain_boolean _)
  · exact nofun

theorem callText' (s method : String) (arguments : List Value) :
    PlainMethod (callText? s method arguments) := by
  unfold callText?
  iterate 5 refine ite' (ok' (plain_string _)) ?_
  refine ite' (map' (plain_split s)) ?_
  iterate 3 refine ite' (map' fun _ => plain_boolean _) ?_
  refine ite' (map' fun _ => plain_ofPlace _) ?_
  exact ite' (bind' (matchesPattern' s)) none'

theorem callArray' (items : List Value) (method : String) (arguments : List Value) :
    PlainMethod (callArray? items method arguments) := by
  unfold callArray?
  iterate 2 refine ite' (ok' (plain_string _)) ?_
  refine ite' (ok' (plain_boolean _)) ?_
  exact ite' (ok' (plain_ofPlace _)) none'

theorem builtin' (receiver : Value) (method : String) (arguments : List Value) :
    PlainMethod (receiver.builtin? method arguments) := by
  cases receiver with
  | string s => exact callText' s method arguments
  | array items => exact callArray' items method arguments
  | boolean b => exact ite' (ok' (plain_string _)) none'
  | integer n => exact ite' (ok' (plain_string _)) none'
  | float x => exact ite' (ok' (plain_string _)) none'
  | _ => exact none'

end PlainMethod

theorem plain_callBuiltin {receiver : Value} {method : String} {arguments : List Value}
    {result : Value} (h : receiver.callBuiltin method arguments = .ok result) : result.Plain := by
  unfold callBuiltin at h
  cases hb : receiver.builtin? method arguments with
  | none => rw [hb] at h; cases h
  | some outcome =>
    rw [hb] at h
    exact PlainMethod.builtin' receiver method arguments result (hb.trans (congrArg some h))

end Plain

end Value

end BindingLang
