import BindingLang.Proofs.Parser.Step
/-!
  Performance: every run is carried out by the parsing function of its goal.

  What is proved:
    1. `performs` — a run before `ts` is carried out with `Goal.fuel` for the
       length of `ts`, which is linear, and with any greater fuel.
-/

namespace BindingLang

namespace Parser

open Cursor

variable {N : Type} {B : Builder N}

/-- Fuel that is enough for a goal before `count` tokens. A list is entered with
its opening token still before the cursor, which is not counted. -/
def Goal.fuel (goal : Goal N) (count : Nat) : Nat :=
  match goal with
  | .expression => 8 * count + 4
  | .climb _ _ => 8 * count + 3
  | .tails _ _ => 8 * count + 4
  | .unary => 8 * count + 3
  | .primary => 8 * count + 2
  | .items _ => 8 * count + 5
  | .entries => 8 * count + 5

/-- Whether the goal's parsing function, in a stream that does not fail, comes
to the result and leaves `us`. -/
def Performs (B : Builder N) (total fuel : Nat) :
    Goal N → List Token → Yield N → List Token → Prop
  | .expression, ts, .node e, us =>
    expression B fuel (facing none total ts) = .value e (facing none total us)
  | .climb left minimum, ts, .node e, us =>
    climb B fuel left minimum (facing none total ts) = .value e (facing none total us)
  | .tails operator right, ts, .node e, us =>
    tails B fuel operator right (facing none total ts) = .value e (facing none total us)
  | .unary, ts, .node e, us =>
    unary B fuel (facing none total ts) = .value (some e) (facing none total us)
  | .primary, ts, .node e, us =>
    primary B fuel (facing none total ts) = .value (some e) (facing none total us)
  | .items closer, ts, .items es, us => ∀ opener,
    items B fuel closer (facing none total (opener :: ts)) = .value es (facing none total us)
  | .entries, ts, .entries es, us => ∀ opener,
    entries B fuel (facing none total (opener :: ts)) = .value es (facing none total us)
  | _, _, _, _ => False

theorem exists_eq_add_of_fuel {goal : Goal N} {count fuel : Nat} (k : Nat)
    (hf : goal.fuel count ≤ fuel) (hk : k ≤ 2) : ∃ n, fuel = n + k := by
  refine ⟨fuel - k, ?_⟩
  cases goal <;> simp only [Goal.fuel] at hf <;> omega

/-- A run is carried out with a fuel linear in the number of tokens. -/
theorem performs {goal : Goal N} {result : Yield N} {ts us : List Token} {total : Nat}
    (h : Run B goal ts result us) (ht : ts.length < total) (fuel : Nat)
    (hf : goal.fuel ts.length ≤ fuel) :
    Performs B total fuel goal ts result us := by
  -- By induction on the run: the function of the goal takes one or two of the
  -- fuel, and the parts of the run are carried out with what is left of it.
  induction h generalizing fuel with
  | empty =>
    obtain ⟨n, rfl⟩ := exists_eq_add_of_fuel 1 hf (by omega)
    exact expression_empty
  | @whole ts us vs operand node first tail ihf iht =>
    obtain ⟨n, rfl⟩ := exists_eq_add_of_fuel 1 hf (by omega)
    have hl := first.lt_of_unary
    simp only [Goal.fuel, Performs] at *
    -- An operand takes a token, so the source is not at its end.
    cases ts with
    | nil => simp at hl
    | cons t ts =>
      rw [expression_whole (ihf ht n (by omega))]
      exact iht (by omega) _ (by omega)
  | stop ends =>
    obtain ⟨n, rfl⟩ := exists_eq_add_of_fuel 1 hf (by omega)
    exact climb_stop ends
  | @call left callee node minimum opener ts us vs nodes opens list builds tail ihl iht =>
    obtain ⟨n, rfl⟩ := exists_eq_add_of_fuel 2 hf (by omega)
    have hl := list.length_le
    simp only [Goal.fuel, Performs, List.length_cons] at *
    rw [climb_call opens (ihl (by omega) n (by omega) opener) builds]
    exact iht (by omega) _ (by omega)
  | @index left argument node minimum opener closer ts us vs opens key closes tail ihk iht =>
    obtain ⟨n, rfl⟩ := exists_eq_add_of_fuel 2 hf (by omega)
    have hl := key.length_le
    simp only [Goal.fuel, Performs, List.length_cons] at *
    rw [climb_index opens (by omega) (fun _ => rfl) (ihk (by omega) n (by omega)) closes
      (by omega) (fun _ => rfl)]
    exact iht (by omega) _ (by omega)
  | @getter left right node minimum dot ts us vs name kind operand splits tail iho iht =>
    obtain ⟨n, rfl⟩ := exists_eq_add_of_fuel 1 hf (by omega)
    have hl := operand.length_le
    simp only [Goal.fuel, Performs, List.length_cons] at *
    rw [climb_getter kind (by omega) (fun _ => rfl) (iho (by omega) n (by omega)) splits]
    exact iht (by omega) _ (by omega)
  | @method left right callee node minimum dot ts us vs name nodes kind operand splits builds tail
      iho iht =>
    obtain ⟨n, rfl⟩ := exists_eq_add_of_fuel 1 hf (by omega)
    have hl := operand.length_le
    simp only [Goal.fuel, Performs, List.length_cons] at *
    rw [climb_method kind (by omega) (fun _ => rfl) (iho (by omega) n (by omega)) splits
      builds]
    exact iht (by omega) _ (by omega)
  | @ternary left whenTrue whenFalse node minimum mark colon ts us vs ws kind value binds first
      colons second tail ihf ihs iht =>
    obtain ⟨n, rfl⟩ := exists_eq_add_of_fuel 2 hf (by omega)
    have hl := first.length_le
    have hl' := second.length_le
    simp only [Goal.fuel, Performs, List.length_cons] at *
    rw [climb_ternary kind value binds (by omega) (fun _ => rfl)
      (ihf (by omega) n (by omega)) colons (by omega) (fun _ => rfl)
      (ihs (by omega) _ (by omega))]
    exact iht (by omega) _ (by omega)
  | @binary left operand right node minimum operator ts us vs ws kind value binds known first second
      tail ihf ihs iht =>
    obtain ⟨n, rfl⟩ := exists_eq_add_of_fuel 2 hf (by omega)
    have hl := first.length_le
    have hl' := second.length_le
    simp only [Goal.fuel, Performs, List.length_cons] at *
    rw [climb_binary kind value binds known (by omega) (fun _ => rfl)
      (ihf (by omega) n (by omega)) (ihs (by omega) _ (by omega))]
    exact iht (by omega) _ (by omega)
  | looser ends =>
    obtain ⟨n, rfl⟩ := exists_eq_add_of_fuel 1 hf (by omega)
    exact tails_looser ends
  | stuck tighter step ih =>
    obtain ⟨n, rfl⟩ := exists_eq_add_of_fuel 1 hf (by omega)
    simp only [Goal.fuel, Performs] at *
    exact tails_stuck tighter (ih ht n (by omega))
  | @tighter operator next right extended node ts us vs tighter step moves tail ihs iht =>
    obtain ⟨n, rfl⟩ := exists_eq_add_of_fuel 1 hf (by omega)
    simp only [Goal.fuel, Performs, List.length_cons] at *
    rw [tails_tighter tighter (ihs ht n (by omega)) moves (by omega)]
    exact iht (by omega) _ (by omega)
  | atom kind primary ih =>
    obtain ⟨n, rfl⟩ := exists_eq_add_of_fuel 1 hf (by omega)
    simp only [Goal.fuel, Performs] at *
    rw [unary_atom kind]
    exact ih ht n (by omega)
  | @signed sign number ts value kind sign' number' reads =>
    obtain ⟨n, rfl⟩ := exists_eq_add_of_fuel 1 hf (by omega)
    simp only [List.length_cons] at ht
    exact unary_signed kind sign' number' (by omega) (fun _ => rfl) reads
  | @prefixed operator ts us vs operand node kind unsigned known primary tail ihp iht =>
    obtain ⟨n, rfl⟩ := exists_eq_add_of_fuel 2 hf (by omega)
    have hl := primary.length_le
    simp only [Goal.fuel, Performs, List.length_cons] at *
    exact unary_prefixed kind unsigned known (by omega) (fun _ => rfl)
      (ihp (by omega) _ (by omega)) (iht (by omega) _ (by omega))
  | this kind value =>
    obtain ⟨n, rfl⟩ := exists_eq_add_of_fuel 1 hf (by omega)
    simp only [List.length_cons] at ht
    exact primary_this kind value (by omega) (fun _ => rfl)
  | constant reads =>
    obtain ⟨n, rfl⟩ := exists_eq_add_of_fuel 1 hf (by omega)
    simp only [List.length_cons] at ht
    exact primary_constant reads (by omega) (fun _ => rfl)
  | name kind noWord ends =>
    obtain ⟨n, rfl⟩ := exists_eq_add_of_fuel 2 hf (by omega)
    simp only [List.length_cons] at ht
    exact primary_name kind noWord ends (by omega) (fun _ => rfl)
  | nameCall kind noWord opens list builds ih =>
    obtain ⟨n, rfl⟩ := exists_eq_add_of_fuel 2 hf (by omega)
    simp only [Goal.fuel, Performs, List.length_cons] at *
    exact primary_nameCall kind noWord opens (by omega) (ih (by omega) _ (by omega) _) builds
  | paren opens run closes ih =>
    obtain ⟨n, rfl⟩ := exists_eq_add_of_fuel 1 hf (by omega)
    have hl := run.length_le
    simp only [Goal.fuel, Performs, List.length_cons] at *
    exact primary_paren opens (by omega) (fun _ => rfl) (ih (by omega) _ (by omega)) closes
      (by omega) (fun _ => rfl)
  | map opens list ih =>
    obtain ⟨n, rfl⟩ := exists_eq_add_of_fuel 1 hf (by omega)
    simp only [Goal.fuel, Performs, List.length_cons] at *
    exact primary_map opens (ih (by omega) _ (by omega) _)
  | list opens list ih =>
    obtain ⟨n, rfl⟩ := exists_eq_add_of_fuel 1 hf (by omega)
    simp only [Goal.fuel, Performs, List.length_cons] at *
    exact primary_list opens (ih (by omega) _ (by omega) _)
  | itemsNone closes =>
    obtain ⟨n, rfl⟩ := exists_eq_add_of_fuel 1 hf (by omega)
    simp only [List.length_cons] at ht
    intro opener
    exact items_none closes (by omega) (fun _ => rfl)
  | itemsLast opens run closes ih =>
    obtain ⟨n, rfl⟩ := exists_eq_add_of_fuel 1 hf (by omega)
    have hl := run.length_le
    simp only [Goal.fuel, Performs, List.length_cons] at *
    intro opener
    exact items_last opens (by omega) (fun _ => rfl) (ih (by omega) _ (by omega)) closes
      (by omega) (fun _ => rfl)
  | itemsMore opens run commas rest ihr ihs =>
    obtain ⟨n, rfl⟩ := exists_eq_add_of_fuel 1 hf (by omega)
    have hl := run.length_le
    simp only [Goal.fuel, Performs, List.length_cons] at *
    intro opener
    exact items_more opens (by omega) (fun _ => rfl) (ihr (by omega) _ (by omega))
      commas (ihs (by omega) _ (by omega) _)
  | entriesNone closes =>
    obtain ⟨n, rfl⟩ := exists_eq_add_of_fuel 1 hf (by omega)
    simp only [List.length_cons] at ht
    intro opener
    exact entries_none closes (by omega) (fun _ => rfl)
  | entriesLast kind colons run closes ih =>
    obtain ⟨n, rfl⟩ := exists_eq_add_of_fuel 1 hf (by omega)
    have hl := run.length_le
    simp only [Goal.fuel, Performs, List.length_cons] at *
    intro opener
    exact entries_last kind colons (by omega) (fun _ => rfl)
      (ih (by omega) _ (by omega)) closes (by omega) (fun _ => rfl)
  | entriesMore kind colons run commas rest ihr ihs =>
    obtain ⟨n, rfl⟩ := exists_eq_add_of_fuel 1 hf (by omega)
    have hl := run.length_le
    simp only [Goal.fuel, Performs, List.length_cons] at *
    intro opener
    exact entries_more kind colons (by omega) (fun _ => rfl)
      (ihr (by omega) _ (by omega)) commas (ihs (by omega) _ (by omega) _)

end Parser

end BindingLang
