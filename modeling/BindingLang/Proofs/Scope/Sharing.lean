import BindingLang.Proofs.Scope.Mentions
import BindingLang.Scope.Workspace
/-!
  Sharing: what a workspace keeps.

  A scope is settled if it is that of a shared slot, under the slot's own number,
  and a workspace knows the values that mention settled scopes only.
  `Workspace.Sound` says of every slot that its scope is numbered by it, stands
  on a settled parent, binds values that the workspace knows, and stands for
  `this` just if its parent left that open. A workspace grows if no shared scope
  of it is lost or changed; what is settled or known then stays so.

  What is proved:
    1. `grows_share`, `grows_add`, `grows_insert` — every operation of a workspace
       lets it grow.
    2. `Sound.share`, `Sound.addRoot`, `Sound.addDocument?`, `Sound.addChild?`,
       `Sound.insert` — and keeps it sound, provided that what it binds is known.
-/

namespace BindingLang

namespace Workspace

variable {w w' w'' : Workspace}

/-- Whether the scope is that of a shared slot, and numbered by it. -/
def Settled (w : Workspace) (scope : Scope) : Prop :=
  ∃ slot, Value.scopeId? scope = some slot ∧ w.shared? slot = some scope

/-- Whether all scopes that stand in the value are settled. -/
def Knows (w : Workspace) (value : Value) : Prop := value.MentionsOnly w.Settled

/-- Whether the shared scopes of the one workspace are shared scopes of the
other, in the same slots and just as they are. -/
def Grows (w w' : Workspace) : Prop :=
  ∀ slot scope, w.shared? slot = some scope → w'.shared? slot = some scope

/-- Whether a link on an outer scope is fit for a slot. -/
structure Fits (w : Workspace) (slot : Nat) (link : Link Value) (outer : Scope) : Prop where
  number : link.id = slot
  parent : outer = [] ∨ w.Settled outer
  bindings : ∀ entry ∈ link.bindings, w.Knows entry.2
  flag : link.bindsThis = (!outer.isEmpty && !outer.contains "this")

/-- Whether the scopes of all slots are fit for them. -/
def Sound (w : Workspace) : Prop :=
  ∀ slot scope, w.scope? slot = some scope → ∃ link outer, scope = link :: outer ∧
    w.Fits slot link outer

theorem Grows.refl (w : Workspace) : w.Grows w := fun _ _ h => h

theorem Grows.trans (h : w.Grows w') (h' : w'.Grows w'') : w.Grows w'' :=
  fun slot scope hs => h' slot scope (h slot scope hs)

theorem Settled.grow {scope : Scope} (h : w.Settled scope) (hg : w.Grows w') :
    w'.Settled scope := by
  obtain ⟨slot, hid, hs⟩ := h
  exact ⟨slot, hid, hg slot scope hs⟩

theorem Knows.grow {value : Value} (h : w.Knows value) (hg : w.Grows w') : w'.Knows value :=
  h.mono fun _ hs => hs.grow hg

theorem Fits.grow {slot : Nat} {link : Link Value} {outer : Scope} (h : w.Fits slot link outer)
    (hg : w.Grows w') : w'.Fits slot link outer :=
  ⟨h.number, h.parent.imp id fun hp => hp.grow hg, fun entry he => (h.bindings entry he).grow hg,
    h.flag⟩

/-! ## The operations -/

section Operations

theorem scope?_of_shared? {slot : Nat} {scope : Scope} (h : w.shared? slot = some scope) :
    w.scope? slot = some scope := by
  unfold shared? at h
  unfold scope?
  split at h
  · rename_i hs
    rw [hs]
    exact h
  · cases h

theorem Sound.fits (h : w.Sound) {slot : Nat} {link : Link Value} {outer : Scope}
    (hs : w.scope? slot = some (link :: outer)) : w.Fits slot link outer := by
  obtain ⟨_, _, heq, hfits⟩ := h slot _ hs
  cases heq
  exact hfits

theorem Sound.settled_of_shared? (h : w.Sound) {slot : Nat} {scope : Scope}
    (hs : w.shared? slot = some scope) : w.Settled scope := by
  obtain ⟨link, outer, rfl, hfits⟩ := h slot scope (scope?_of_shared? hs)
  exact ⟨slot, congrArg some hfits.number, hs⟩

theorem scope?_share (w : Workspace) (shared slot : Nat) :
    (w.share shared).scope? slot = w.scope? slot := by
  unfold scope? share
  rw [List.getElem?_modify]
  split
  · cases w.slots[slot]? <;> rfl
  · simp

theorem shared?_share_self {slot : Nat} {scope : Scope} (h : w.scope? slot = some scope) :
    (w.share slot).shared? slot = some scope := by
  unfold scope? at h
  obtain ⟨old, hold, rfl⟩ := Option.map_eq_some_iff.mp h
  unfold shared? share
  rw [List.getElem?_modify, hold]
  simp [Slot.share]

theorem grows_share (w : Workspace) (shared : Nat) : w.Grows (w.share shared) := by
  intro slot scope h
  by_cases heq : shared = slot
  · subst heq
    exact shared?_share_self (scope?_of_shared? h)
  · unfold shared? share at *
    rw [List.getElem?_modify]
    simpa [heq] using h

theorem Sound.share (h : w.Sound) (shared : Nat) : (w.share shared).Sound := by
  intro slot scope hs
  rw [scope?_share] at hs
  obtain ⟨link, outer, rfl, hfits⟩ := h slot scope hs
  exact ⟨link, outer, rfl, hfits.grow (grows_share w shared)⟩

theorem scope?_add (w : Workspace) (scope : Scope) (slot : Nat) :
    (w.add scope).scope? slot = if slot = w.nextSlot then some scope else w.scope? slot := by
  unfold scope? add nextSlot
  by_cases heq : slot = w.slots.length
  · rw [if_pos heq, heq]
    simp [Slot.scope]
  · rw [if_neg heq]
    by_cases hlt : slot < w.slots.length
    · rw [List.getElem?_append_left hlt]
    · have hle : w.slots.length + 1 ≤ slot := by omega
      rw [List.getElem?_eq_none (by simpa using hle), List.getElem?_eq_none (by omega)]

theorem grows_add (w : Workspace) (scope : Scope) : w.Grows (w.add scope) := by
  intro slot shared h
  obtain ⟨old, hold, -⟩ := Option.map_eq_some_iff.mp (scope?_of_shared? h)
  obtain ⟨hlt, -⟩ := List.getElem?_eq_some_iff.mp hold
  unfold shared? add
  rw [List.getElem?_append_left hlt]
  exact h

/-- A scope that fits the next slot may be added. -/
theorem Sound.add (h : w.Sound) {link : Link Value} {outer : Scope}
    (hnew : w.Fits w.nextSlot link outer) : (w.add (link :: outer)).Sound := by
  intro slot scope hs
  have hg := grows_add w (link :: outer)
  rw [scope?_add] at hs
  split at hs
  · rename_i heq
    cases hs
    exact ⟨link, outer, rfl, heq ▸ hnew.grow hg⟩
  · obtain ⟨link', outer', rfl, hfits⟩ := h slot scope hs
    exact ⟨link', outer', rfl, hfits.grow hg⟩

/-- The next scope of one link may be added with bindings that are known. -/
theorem Sound.addRoot (h : w.Sound) {bindings : Dict Value}
    (hb : ∀ entry ∈ bindings, w.Knows entry.2) : (w.addRoot bindings).Sound :=
  h.add ⟨rfl, Or.inl rfl, hb, rfl⟩

/-- The scope of a document binds plain values. -/
theorem Sound.addDocument? (h : w.Sound) {document : Json}
    (hd : w.addDocument? document = some w') : w'.Sound ∧ w.Grows w' := by
  cases document with
  | object entries =>
    cases hd
    refine ⟨h.addRoot fun entry he => ?_, grows_add w _⟩
    exact (Value.plain_entriesOfJson entries entry he).mentionsOnly _
  | _ => cases hd

theorem grows_addFormula (w : Workspace) (formula : Formula) : w.Grows (w.addFormula formula) :=
  fun _ _ h => h

theorem Sound.addFormula (h : w.Sound) (formula : Formula) : (w.addFormula formula).Sound := by
  intro slot scope hs
  obtain ⟨link, outer, rfl, hfits⟩ := h slot scope hs
  exact ⟨link, outer, rfl, hfits.grow (grows_addFormula w formula)⟩

/-- What an insertion does: its slot is owned, and has the name bound at its
scope. -/
theorem insert_eq_ok {slot : Nat} {name : String} {value : Value} {previous : Option Value}
    (h : w.insert slot name value = .ok (w', previous)) :
    ∃ scope, w.slots[slot]? = some (.owned scope) ∧ previous = scope.getLocal? name ∧
      w' = { w with slots := w.slots.set slot (.owned (scope.insert name value)) } := by
  unfold insert at h
  split at h
  · cases h
  · cases h
  · rename_i scope hs
    cases h
    exact ⟨scope, hs, rfl, rfl⟩

theorem grows_insert {slot : Nat} {name : String} {value : Value} {previous : Option Value}
    (h : w.insert slot name value = .ok (w', previous)) : w.Grows w' := by
  obtain ⟨scope, howned, -, rfl⟩ := insert_eq_ok h
  intro other shared hs
  unfold shared? at *
  rw [List.getElem?_set]
  by_cases heq : slot = other
  · -- The slot of the insertion is owned, so it is none of the shared ones.
    rw [← heq, howned] at hs
    cases hs
  · rwa [if_neg heq]

/-- A binding that is known may be inserted, and what it replaces was known. -/
theorem Sound.insert (h : w.Sound) {slot : Nat} {name : String} {value : Value}
    {previous : Option Value} (hv : w.Knows value)
    (hi : w.insert slot name value = .ok (w', previous)) :
    w'.Sound ∧ ∀ old ∈ previous, w'.Knows old := by
  have hg := grows_insert hi
  obtain ⟨scope, howned, rfl, rfl⟩ := insert_eq_ok hi
  have hscope : w.scope? slot = some scope := by
    unfold scope?
    rw [howned]
    rfl
  obtain ⟨link, outer, rfl, hfits⟩ := h slot scope hscope
  refine ⟨?_, ?_⟩
  · intro other scope' hs
    unfold scope? at hs
    rw [List.getElem?_set] at hs
    by_cases heq : slot = other
    · subst heq
      obtain ⟨hlt, -⟩ := List.getElem?_eq_some_iff.mp howned
      rw [if_pos rfl, if_pos hlt] at hs
      cases hs
      refine ⟨_, outer, rfl, Fits.grow ⟨hfits.number, hfits.parent, ?_, hfits.flag⟩ hg⟩
      intro entry he
      obtain rfl | he := Dict.mem_insert he
      · exact hv
      · exact hfits.bindings entry he
    · rw [if_neg heq] at hs
      obtain ⟨link', outer', rfl, hfits'⟩ := h other scope' hs
      exact ⟨link', outer', rfl, hfits'.grow hg⟩
  · intro old hold
    exact (hfits.bindings _ (Dict.mem_of_get? hold)).grow hg

/-- The child of a shared scope is fit for the next slot, with nothing bound. -/
theorem fits_child {parent : Scope} (h : w.Settled parent) :
    w.Fits w.nextSlot ⟨w.nextSlot, [], !parent.contains "this"⟩ parent := by
  obtain ⟨slot, hid, -⟩ := id h
  refine ⟨rfl, Or.inr h, nofun, ?_⟩
  cases parent with
  | nil => cases hid
  | cons link outer => rfl

theorem Sound.addChild? (h : w.Sound) {parent : Nat} (hc : w.addChild? parent = some w') :
    w'.Sound ∧ w.Grows w' := by
  obtain ⟨scope, hs, rfl⟩ := Option.map_eq_some_iff.mp hc
  have hsound := h.share parent
  have hsettled := hsound.settled_of_shared? (shared?_share_self hs)
  have hnext : (w.share parent).nextSlot = w.nextSlot := by
    simp [nextSlot, Workspace.share]
  refine ⟨?_, (grows_share w parent).trans (grows_add _ _)⟩
  have hfits := fits_child hsettled
  rw [hnext] at hfits
  exact hsound.add (hnext ▸ hfits)

end Operations

end Workspace

end BindingLang
