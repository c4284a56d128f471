import BindingLang.Proofs.Scope.Evaluation
/-!
  Shared scopes are frozen, and never form a cycle.

  A slot refers to another one if its scope has that one's scope as its parent,
  or mentions it in a binding of its own. The order in which slots are made does
  not tell which way references go: a scope that is still owned may come to
  mention one made after it. But only what is shared is ever referred to, and
  stays as it was then, so along every reference scopes get smaller.

  What is proved:
    1. `refers_wellFounded` — in a sound workspace there is no endless way along
       references.
    2. `shared_frozen` — in every run, what is shared stays as it is and goes on
       giving the same answers, only shared scopes are referred to, and the
       references are well-founded.
-/

namespace BindingLang

namespace Workspace

variable {w w' : Workspace}

/-- Whether the scope of slot `a` has that of slot `b` as its parent, or
mentions it in a binding of its own. -/
def Refers (w : Workspace) (a b : Nat) : Prop :=
  ∃ scope target, w.scope? a = some scope ∧ Value.scopeId? target = some b ∧
    (scope.parent? = some target ∨ ∃ entry ∈ scope.localBindings, entry.2.Mentions target)

/-- What a name stands for in the scope of a slot. -/
def lookup? (w : Workspace) (slot : Nat) (name : String) : Option Value :=
  (w.scope? slot).map fun scope => scope.lookup name

/-- The document of the scope of a slot. -/
def document? (w : Workspace) (slot : Nat) : Option Json :=
  (w.scope? slot).map fun scope => (Value.scope scope).toJson

theorem Fits.parent_settled {slot : Nat} {link : Link Value} {outer target : Scope}
    (h : w.Fits slot link outer) (hp : Scope.parent? (link :: outer) = some target) :
    w.Settled target := by
  cases outer with
  | nil => cases hp
  | cons next rest => exact Option.some.inj hp ▸ h.parent.resolve_left (by simp)

/-- The number of a settled scope is that of its slot. -/
theorem Settled.scope?_eq {scope : Scope} {slot : Nat} (h : w.Settled scope)
    (hid : Value.scopeId? scope = some slot) : w.scope? slot = some scope := by
  obtain ⟨other, hother, hs⟩ := h
  obtain rfl := Option.some.inj (hid.symm.trans hother)
  exact scope?_of_shared? hs

/-- What a scope refers to is smaller than the scope itself. -/
theorem sizeOf_of_refers {scope target : Scope}
    (h : scope.parent? = some target ∨ ∃ entry ∈ scope.localBindings, entry.2.Mentions target) :
    sizeOf target < sizeOf scope := by
  cases scope with
  | nil =>
    obtain h | ⟨entry, he, -⟩ := h
    · cases h
    · cases he
  | cons link outer =>
    obtain h | ⟨⟨key, value⟩, he, hm⟩ := h
    · cases outer with
      | nil => cases h
      | cons next rest =>
        cases h
        simp only [List.cons.sizeOf_spec]
        omega
    · obtain ⟨id, bindings, flag⟩ := link
      have he : (key, value) ∈ bindings := he
      have hbinding := List.sizeOf_lt_of_mem he
      have hvalue := Value.sizeOf_of_mentions hm
      simp only [List.cons.sizeOf_spec, Link.mk.sizeOf_spec, Prod.mk.sizeOf_spec] at *
      omega

/-- The references of a sound workspace are well-founded. -/
theorem Sound.refers_wellFounded (h : w.Sound) : WellFounded fun b a => w.Refers a b := by
  -- A slot is as large as its scope, and the scope of every target is its slot's.
  refine Subrelation.wf ?_ (measure fun slot => sizeOf (w.scope? slot)).wf
  rintro b a ⟨scope, target, hscope, hid, hrefers⟩
  have hsize := sizeOf_of_refers hrefers
  obtain ⟨link, outer, rfl, hfits⟩ := h a scope hscope
  have htarget : w.Settled target := by
    obtain hp | ⟨entry, he, hm⟩ := hrefers
    · exact hfits.parent_settled hp
    · exact hfits.bindings entry he target hm
  change sizeOf (w.scope? b) < sizeOf (w.scope? a)
  rw [hscope, htarget.scope?_eq hid]
  simp only [Option.some.sizeOf_spec]
  omega

end Workspace

open Workspace

/-- In every run: a shared scope stays the very same, down to its bindings, its
parent and whether it stands for `this`, and so do its answers; parents of
scopes, and scopes within bindings, are shared; and references are
well-founded. -/
theorem shared_frozen {τ : Type} (script : Script τ) (depth : Nat) (memory : τ)
    (earlier later : List Turn) :
    let w := script.workspace depth memory earlier
    let w' := script.workspace depth memory (earlier ++ later)
    (∀ slot scope, w.shared? slot = some scope → w'.shared? slot = some scope ∧
      (∀ name, w'.lookup? slot name = w.lookup? slot name) ∧
      w'.document? slot = w.document? slot) ∧
    (∀ slot scope, w.scope? slot = some scope →
      (∀ target, scope.parent? = some target → w.Settled target) ∧
      ∀ entry ∈ scope.localBindings, ∀ target, entry.2.Mentions target → w.Settled target) ∧
    WellFounded fun b a => w.Refers a b := by
  intro w w'
  have hsound : w.Sound := script.workspace_sound depth memory earlier
  have hgrows : w.Grows w' := script.workspace_grows depth memory earlier later
  refine ⟨fun slot scope hs => ?_, fun slot scope hs => ?_, hsound.refers_wellFounded⟩
  · have hs' := hgrows slot scope hs
    have hsame : w'.scope? slot = w.scope? slot :=
      (scope?_of_shared? hs').trans (scope?_of_shared? hs).symm
    unfold lookup? document?
    rw [hsame]
    exact ⟨hs', fun _ => rfl, rfl⟩
  · obtain ⟨link, outer, rfl, hfits⟩ := hsound slot scope hs
    exact ⟨fun target => hfits.parent_settled, fun entry he => hfits.bindings entry he⟩

/-- A client whose functions put their last argument into a new scope, share it
and give it back. -/
def boxScript : Script Unit := fun _ _ _ s =>
  .step (.move (.root [("content", .held (s.held.length - 1))])) fun s =>
    .step (.move (.share (s.workspace.nextSlot - 1))) fun s =>
      .done () (.ok (.scope (s.workspace.nextSlot - 1)))

/-- Evaluates `box(this)` in slot 1, which makes slot 2, and then binds that in
the older slot 0. -/
def boxTurns : List Turn :=
  [.move (.root []), .move (.root []), .move (.insert 1 "box" (.function ⟨"box", 0⟩)),
    .move (.formula ⟨.invoke (.id "box") none [.id "this"]⟩), .eval 0 1,
    .move (.insert 0 "result" (.held 2))]

/-- The scope of slot 1 in `boxTurns`. -/
def boxScope : Scope := [⟨1, [("box", .function ⟨"box", 0⟩)], false⟩]

/-- Slot 0, still owned, comes to refer to slot 2 made after it, and that one to
slot 1. Insertions into slot 2 are then refused, while slot 0 gets a child. -/
theorem shared_frozen_box :
    let later : List Turn := [.move (.insert 2 "content" .undefined), .move (.child 0)]
    let w := boxScript.workspace 1 () boxTurns
    let w' := boxScript.workspace 1 () (boxTurns ++ later)
    w.shared? 2 = some [⟨2, [("content", .scope boxScope)], false⟩] ∧
      w.Refers 0 2 ∧ w.Refers 2 1 ∧
      w'.shared? 2 = some [⟨2, [("content", .scope boxScope)], false⟩] ∧
      w'.lookup? 2 "content" = w.lookup? 2 "content" ∧
      w.Settled boxScope ∧ WellFounded fun b a => w.Refers a b := by
  intro later w w'
  have hshared : w.shared? 2 = some [⟨2, [("content", .scope boxScope)], false⟩] := rfl
  obtain ⟨hfrozen, hsettled, hwf⟩ := shared_frozen boxScript 1 () boxTurns later
  obtain ⟨hs, hlookup, -⟩ := hfrozen 2 _ hshared
  obtain ⟨-, hbindings⟩ := hsettled 2 _ (scope?_of_shared? hshared)
  refine ⟨hshared, ?_, ?_, hs, hlookup "content", ?_, hwf⟩
  · exact ⟨_, _, rfl, rfl, Or.inr ⟨_, List.mem_cons_self, .scope _⟩⟩
  · exact ⟨_, _, rfl, rfl, Or.inr ⟨_, List.mem_cons_self, .scope _⟩⟩
  · exact hbindings _ List.mem_cons_self _ (.scope _)

end BindingLang
