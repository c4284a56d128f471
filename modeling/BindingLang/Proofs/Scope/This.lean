import BindingLang.Proofs.Scope.Evaluation
/-!
  What `this` stands for along a chain.

  Whether a link stands for `this` itself is settled when it is made, by the
  chain that it is put on; names can be bound at it later, `this` among them, but
  no longer at the chain below. So a link stands for `this` just if it has a
  parent and none of the farther links binds `this` or stands for it. In a chain
  without bindings of `this` that is the link next to the root, and no other.

  What is proved:
    1. `contains_eq_true_iff`, `lookup_of_not_contains` — a chain contains the
       names that some link binds or stands for, and has no value for others.
    2. `Formed.lookup_this_of_unbound` — without a binding of `this`, the link
       next to the root is what `this` stands for.
    3. `this_bound_once` — what `this` is in every scope of every run.
-/

namespace BindingLang

namespace Scope

/-- Whether no link binds `this` by name. -/
def Unbound (scope : Scope) : Prop := ∀ link ∈ scope, Dict.get? link.bindings "this" = none

/-- Chains as they are made: a link stands for `this` just if it is put on a
chain that does not contain `this`. -/
inductive Formed : Scope → Prop where
  | root {link : Link Value} (flag : link.bindsThis = false) : Formed [link]
  | child {link : Link Value} {outer : Scope} (formed : Formed outer)
      (flag : link.bindsThis = !outer.contains "this") : Formed (link :: outer)

theorem contains_eq_true_iff {scope : Scope} {name : String} :
    scope.contains name = true ↔ ∃ link ∈ scope,
      (∃ value, Dict.get? link.bindings name = some value) ∨
        (name = "this" ∧ link.bindsThis = true) := by
  induction scope with
  | nil => simp [contains]
  | cons link outer ih =>
    simp [contains, ih, Dict.contains, Option.isSome_iff_exists]

theorem contains_eq_false_iff {scope : Scope} {name : String} :
    scope.contains name = false ↔ ∀ link ∈ scope,
      Dict.get? link.bindings name = none ∧ (name = "this" → link.bindsThis = false) := by
  induction scope with
  | nil => simp [contains]
  | cons link outer ih =>
    simp [contains, ih, Dict.contains]

theorem lookup_cons_of_bound {link : Link Value} {outer : Scope} {name : String} {value : Value}
    (h : Dict.get? link.bindings name = some value) : lookup (link :: outer) name = value := by
  rw [lookup, h]

theorem lookup_cons_of_unbound {link : Link Value} {outer : Scope} {name : String}
    (h : Dict.get? link.bindings name = none) : lookup (link :: outer) name =
      if name = "this" ∧ link.bindsThis = true then .scope (link :: outer)
      else lookup outer name := by
  rw [lookup, h]

/-- A name that a chain does not contain is undefined in it. -/
theorem lookup_of_not_contains {scope : Scope} {name : String}
    (h : scope.contains name = false) : scope.lookup name = .undefined := by
  induction scope with
  | nil => rfl
  | cons link outer ih =>
    simp only [contains, Bool.or_eq_false_iff, Bool.and_eq_false_imp, beq_iff_eq, Dict.contains,
      Option.isSome_eq_false_iff, Option.isNone_iff_eq_none] at h
    obtain ⟨⟨hbindings, hflag⟩, houter⟩ := h
    rw [lookup_cons_of_unbound hbindings, if_neg fun hthis => by simp [hflag hthis.1] at hthis]
    exact ih houter

namespace Formed

variable {scope : Scope}

/-- A link on top of a chain: it stands for `this` just if the chain does not
contain it. -/
theorem of_cons {link : Link Value} {outer : Scope} (h : Formed (link :: outer))
    (hne : outer ≠ []) : Formed outer ∧ link.bindsThis = !outer.contains "this" := by
  cases h with
  | root => exact absurd rfl hne
  | child formed flag => exact ⟨formed, flag⟩

/-- A root does not stand for `this`. -/
theorem of_singleton {link : Link Value} (h : Formed [link]) : link.bindsThis = false := by
  cases h with
  | root flag => exact flag
  | child formed => cases formed

/-- Every chain but a root contains `this`. -/
theorem contains_this (h : Formed scope) (hlength : 2 ≤ scope.length) :
    scope.contains "this" = true := by
  cases h with
  | root => simp at hlength
  | child formed flag =>
    rw [contains, flag]
    cases contains _ "this" <;> simp

/-- Links farther than one that stands for `this` neither bind it nor stand for
it. -/
theorem farther_of_flag (h : Formed scope) {nearer farther : Scope} {link : Link Value}
    (hsplit : scope = nearer ++ link :: farther) (hflag : link.bindsThis = true) :
    ∀ other ∈ farther, other.bindsThis = false ∧ Dict.get? other.bindings "this" = none := by
  induction nearer generalizing scope with
  | nil =>
    subst hsplit
    intro other ho
    have hnot : farther.contains "this" = false := by
      simpa [hflag] using (h.of_cons (List.ne_nil_of_mem ho)).2
    obtain ⟨hbindings, hother⟩ := contains_eq_false_iff.mp hnot other ho
    exact ⟨hother rfl, hbindings⟩
  | cons first nearer ih =>
    subst hsplit
    exact ih (h.of_cons (by simp)).1 rfl

/-- The nearest binding of `this` tells what it is, because what stands for
`this` is never nearer than a binding. -/
theorem lookup_this_of_bound (h : Formed scope) {nearer farther : Scope} {link : Link Value}
    {value : Value} (hsplit : scope = nearer ++ link :: farther) (hnearer : Unbound nearer)
    (hbound : Dict.get? link.bindings "this" = some value) : scope.lookup "this" = value := by
  induction nearer generalizing scope with
  | nil =>
    subst hsplit
    exact lookup_cons_of_bound hbound
  | cons first nearer ih =>
    have hflag : first.bindsThis = false := by
      refine Bool.eq_false_iff.mpr fun hfirst => ?_
      have hsplit : scope = [] ++ first :: (nearer ++ link :: farther) := hsplit
      have hlink := h.farther_of_flag hsplit hfirst link (by simp)
      rw [hbound] at hlink
      cases hlink.2
    subst hsplit
    have hrest : lookup (nearer ++ link :: farther) "this" = value :=
      ih (h.of_cons (by simp)).1 rfl fun other ho => hnearer other (List.mem_cons_of_mem _ ho)
    rw [List.cons_append, lookup_cons_of_unbound (hnearer first List.mem_cons_self)]
    simpa [hflag] using hrest

/-- Without a binding of `this`, it is the link next to the root. -/
theorem lookup_this_of_unbound (h : Formed scope) (hunbound : Unbound scope) {nearer : Scope}
    {second root : Link Value} (hsplit : scope = nearer ++ [second, root]) :
    scope.lookup "this" = .scope [second, root] := by
  induction nearer generalizing scope with
  | nil =>
    subst hsplit
    obtain ⟨hroot, hflag⟩ := h.of_cons (by simp)
    have hnot : contains [root] "this" = false := by
      refine contains_eq_false_iff.mpr fun link hl => ?_
      obtain rfl := List.mem_singleton.mp hl
      exact ⟨hunbound link (by simp), fun _ => hroot.of_singleton⟩
    rw [List.nil_append, lookup_cons_of_unbound (hunbound second (by simp))]
    simp [hflag, hnot]
  | cons first nearer ih =>
    subst hsplit
    rw [List.cons_append] at h ⊢
    obtain ⟨houter, hflag⟩ := h.of_cons (by simp)
    rw [houter.contains_this (by simp)] at hflag
    have hrest := ih houter (fun link hl => hunbound link (List.mem_cons_of_mem _ hl)) rfl
    rw [lookup_cons_of_unbound (hunbound first (by simp))]
    simpa [hflag] using hrest

/-- A chain is a root, or has a link next to its root. -/
theorem cases_length (h : Formed scope) :
    (∃ root, scope = [root]) ∨ ∃ nearer second root, scope = nearer ++ [second, root] := by
  induction h with
  | root => exact Or.inl ⟨_, rfl⟩
  | child formed flag ih =>
    obtain ⟨root, rfl⟩ | ⟨nearer, second, root, rfl⟩ := ih
    · exact Or.inr ⟨[], _, root, rfl⟩
    · exact Or.inr ⟨_ :: nearer, second, root, rfl⟩

end Formed

end Scope

/-- The scopes of a sound workspace are formed. -/
theorem Workspace.Sound.formed {w : Workspace} (h : w.Sound) {slot : Nat} {scope : Scope}
    (hs : w.scope? slot = some scope) : scope.Formed := by
  induction scope generalizing slot with
  | nil =>
    obtain ⟨_, _, hscope, -⟩ := h slot _ hs
    cases hscope
  | cons link outer ih =>
    obtain ⟨-, hparent, -, hflag⟩ := h.fits hs
    cases outer with
    | nil => exact .root hflag
    | cons next outer =>
      obtain ⟨parent, -, hshared⟩ := hparent.resolve_left (by simp)
      exact .child (ih (scope?_of_shared? hshared)) hflag

open Scope

/-- In every scope of every run: farther than a link that stands for `this`,
nothing binds it or stands for it; `this` is what the nearest binding says, or
without one the link next to the root, and undefined at a root; and a name is
contained just if some link binds it or stands for it, and else undefined. -/
theorem this_bound_once {τ : Type} (script : Script τ) (depth : Nat) (memory : τ)
    (turns : List Turn) {slot : Nat} {scope : Scope}
    (hs : (script.workspace depth memory turns).scope? slot = some scope) :
    (∀ nearer link farther, scope = nearer ++ link :: farther → link.bindsThis = true →
      ∀ other ∈ farther, other.bindsThis = false ∧ Dict.get? other.bindings "this" = none) ∧
    (∀ nearer link farther value, scope = nearer ++ link :: farther → Unbound nearer →
      Dict.get? link.bindings "this" = some value → scope.lookup "this" = value) ∧
    (Unbound scope →
      (∃ root, scope = [root] ∧ scope.lookup "this" = .undefined) ∨
        ∃ nearer second root, scope = nearer ++ [second, root] ∧
          scope.lookup "this" = .scope [second, root]) ∧
    ∀ name,
      (scope.contains name = true ↔ ∃ link ∈ scope,
        (∃ value, Dict.get? link.bindings name = some value) ∨
          (name = "this" ∧ link.bindsThis = true)) ∧
      (scope.contains name = false → scope.lookup name = .undefined) := by
  have hformed := (script.workspace_sound depth memory turns).formed hs
  refine ⟨fun _ _ _ hsplit hflag => hformed.farther_of_flag hsplit hflag,
    fun _ _ _ _ hsplit hnearer hbound => hformed.lookup_this_of_bound hsplit hnearer hbound,
    fun hunbound => ?_, fun name => ⟨contains_eq_true_iff, lookup_of_not_contains⟩⟩
  obtain ⟨root, rfl⟩ | ⟨nearer, second, root, hsplit⟩ := hformed.cases_length
  · refine Or.inl ⟨root, rfl, lookup_of_not_contains (contains_eq_false_iff.mpr fun link hl => ?_)⟩
    obtain rfl := List.mem_singleton.mp hl
    exact ⟨hunbound link hl, fun _ => hformed.of_singleton⟩
  · exact Or.inr ⟨nearer, second, root, hsplit, hformed.lookup_this_of_unbound hunbound hsplit⟩

/-- A client without functions that do anything. -/
def idleScript : Script Unit := fun _ _ _ _ => .done () (.ok .undefined)

/-- Makes a chain of four links, with `this` bound at the second one before it
is shared. -/
def lateThisTurns : List Turn :=
  [.move (.root []), .move (.child 0), .move (.child 1),
    .move (.insert 2 "this" (.literal (.integer 5))), .move (.child 2)]

/-- The chain of `lateThisTurns`: the link next to the root stands for `this`,
and a nearer one binds it. -/
def lateThisScope : Scope :=
  [⟨3, [], false⟩, ⟨2, [("this", .integer 5)], false⟩, ⟨1, [], true⟩, ⟨0, [], false⟩]

theorem this_bound_once_late :
    (idleScript.workspace 1 () lateThisTurns).scope? 3 = some lateThisScope ∧
      lateThisScope.lookup "this" = .integer 5 ∧
      (idleScript.workspace 1 () lateThisTurns).scope? 1 = some [⟨1, [], true⟩, ⟨0, [], false⟩] ∧
      lookup [⟨1, [], true⟩, ⟨0, [], false⟩] "this" = .scope [⟨1, [], true⟩, ⟨0, [], false⟩] ∧
      lateThisScope.lookup "that" = .undefined := by
  have hnear : (idleScript.workspace 1 () lateThisTurns).scope? 3 = some lateThisScope := rfl
  have hfar : (idleScript.workspace 1 () lateThisTurns).scope? 1 =
      some [⟨1, [], true⟩, ⟨0, [], false⟩] := rfl
  obtain ⟨-, hbound, -, hcontains⟩ := this_bound_once idleScript 1 () lateThisTurns hnear
  obtain ⟨-, -, hunbound, -⟩ := this_bound_once idleScript 1 () lateThisTurns hfar
  refine ⟨hnear, ?_, hfar, ?_, (hcontains "that").2 rfl⟩
  · exact hbound [⟨3, [], false⟩] _ _ _ rfl (by simp [Unbound]) rfl
  · obtain ⟨root, hroot, -⟩ | ⟨nearer, second, root, hsplit, hlookup⟩ :=
      hunbound (by simp [Unbound])
    · cases hroot
    · rw [hlookup]
      cases nearer with
      | nil => cases hsplit; rfl
      | cons first nearer => exact absurd (congrArg List.length hsplit) (by simp)

end BindingLang
