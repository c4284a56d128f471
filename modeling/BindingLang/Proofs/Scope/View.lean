import BindingLang.Proofs.Scope.Made
/-!
  What a scope shows of itself is what it answers.

  The document of a scope is made from the far end of its chain, every link
  bound on top of the farther ones, while a name is looked up from the near end,
  and the first link that binds it answers. The two agree on the names that are
  bound, since the bindings of a link are sorted. On `this` they agree because
  no link that stands for it is nearer than one that binds it.

  What is proved:
    1. `get?_visible_cons`, `mem_names_visible_iff` — what is visible in a chain,
       link by link, and the names of it.
    2. `Formed.lookup_of_visible`, `lookup_of_unbound` — what a name stands for
       that some link binds, and one that none does.
    3. `Value.visibleToJson_eq` — the documents of what is visible.
    4. `scope_view_agrees` — the document of a scope and lookups in it.
-/

namespace BindingLang

namespace Scope

variable {scope : Scope} {name : String}

theorem sorted_visible (scope : Scope) : scope.visible.Sorted := by
  induction scope with
  | nil => exact List.Pairwise.nil
  | cons link outer ih => exact Dict.sorted_overlay ih link.bindings

/-- What is visible is what the first link binds, and else what is visible
farther on. -/
theorem get?_visible_cons {link : Link Value} {outer : Scope} (h : Dict.Sorted link.bindings)
    (name : String) : (visible (link :: outer)).get? name =
      (Dict.get? link.bindings name).or ((visible outer).get? name) :=
  Dict.get?_overlay h (visible outer) name

/-- The names that are visible are those that some link binds. -/
theorem mem_names_visible_iff (h : ∀ link ∈ scope, Dict.Sorted link.bindings) :
    name ∈ scope.visible.names ↔ ∃ link ∈ scope, name ∈ Dict.names link.bindings := by
  induction scope with
  | nil => exact ⟨nofun, nofun⟩
  | cons link outer ih =>
    obtain ⟨hlink, houter⟩ := List.forall_mem_cons.mp h
    rw [visible, Dict.mem_names_overlay_iff hlink, ih houter]
    simp

/-! ## Lookups -/

/-- A link on top of one that binds `this` does not stand for it. -/
theorem Formed.flag_of_visible {link : Link Value} {outer : Scope} (h : Formed (link :: outer))
    (hsorted : ∀ other ∈ outer, Dict.Sorted other.bindings)
    (hvisible : "this" ∈ outer.visible.names) : link.bindsThis = false := by
  obtain ⟨other, ho, hname⟩ := (mem_names_visible_iff hsorted).mp hvisible
  have hcontains : outer.contains "this" = true :=
    contains_eq_true_iff.mpr ⟨other, ho, Or.inl (Dict.mem_names_iff.mp hname)⟩
  rw [(h.of_cons (List.ne_nil_of_mem ho)).2, hcontains, Bool.not_true]

/-- A name stands for what is visible of it. -/
theorem Formed.lookup_of_visible (h : Formed scope)
    (hsorted : ∀ link ∈ scope, Dict.Sorted link.bindings) {value : Value}
    (hvisible : scope.visible.get? name = some value) : scope.lookup name = value := by
  induction scope with
  | nil => cases hvisible
  | cons link outer ih =>
    obtain ⟨hlink, houter⟩ := List.forall_mem_cons.mp hsorted
    rw [get?_visible_cons hlink] at hvisible
    cases hbound : Dict.get? link.bindings name with
    | some bound =>
      rw [hbound, Option.some_or] at hvisible
      exact (lookup_cons_of_bound hbound).trans (Option.some.inj hvisible)
    | none =>
      rw [hbound, Option.none_or] at hvisible
      have hmem : name ∈ (visible outer).names := Dict.mem_names_iff.mpr ⟨value, hvisible⟩
      have hnot : ¬ (name = "this" ∧ link.bindsThis = true) := by
        rintro ⟨rfl, hflag⟩
        rw [h.flag_of_visible houter hmem] at hflag
        cases hflag
      rw [lookup_cons_of_unbound hbound, if_neg hnot]
      have hne : outer ≠ [] := by
        rintro rfl
        cases hvisible
      exact ih (h.of_cons hne).1 houter hvisible

/-- A name that no link binds is undefined, unless it is `this` and some link
stands for it. -/
theorem lookup_of_unbound (h : ∀ link ∈ scope, name ∉ Dict.names link.bindings) :
    scope.lookup name = .undefined ∨
      name = "this" ∧ ∃ nearer link farther, scope = nearer ++ link :: farther ∧
        link.bindsThis = true ∧ scope.lookup name = .scope (link :: farther) := by
  induction scope with
  | nil => exact Or.inl rfl
  | cons link outer ih =>
    obtain ⟨hlink, houter⟩ := List.forall_mem_cons.mp h
    have hunbound : Dict.get? link.bindings name = none := by
      cases hbound : Dict.get? link.bindings name with
      | none => rfl
      | some value => exact absurd (Dict.mem_names_iff.mpr ⟨value, hbound⟩) hlink
    rw [lookup_cons_of_unbound hunbound]
    split
    · rename_i hthis
      exact Or.inr ⟨hthis.1, [], link, outer, rfl, hthis.2, rfl⟩
    · obtain hlookup | ⟨hthis, nearer, other, farther, rfl, hflag, hlookup⟩ := ih houter
      · exact Or.inl hlookup
      · exact Or.inr ⟨hthis, link :: nearer, other, farther, rfl, hflag, hlookup⟩

end Scope

namespace Value

theorem entriesToJson_eq (entries : List (String × Value)) :
    entriesToJson entries = entries.map fun entry => (entry.1, entry.2.toJson) := by
  induction entries with
  | nil => rfl
  | cons entry entries ih => rw [entriesToJson, ih, List.map_cons]

/-- The documents of what is visible. -/
theorem visibleToJson_eq (scope : Scope) :
    visibleToJson scope = scope.visible.map fun entry => (entry.1, entry.2.toJson) := by
  induction scope with
  | nil => rfl
  | cons link outer ih =>
    rw [visibleToJson, Scope.visible, ih, entriesToJson_eq, Dict.overlay_map]

end Value

/-- The document of a scope and lookups in it: the keys are the names that some
link binds, each once, and its value is the document of what it stands for, be it
`this` or another; a name that no link binds is undefined, unless it is `this` and
some link stands for it. -/
theorem scope_view_agrees {scope : Scope} (h : scope.Made) :
    ∃ documents : Dict Json, (Value.scope scope).toJson = .object documents ∧
      documents.names = scope.visible.names ∧ scope.visible.Sorted ∧
      ∀ name,
        (name ∈ scope.visible.names ↔ ∃ link ∈ scope, name ∈ Dict.names link.bindings) ∧
        (name ∈ scope.visible.names →
          scope.visible.get? name = some (scope.lookup name) ∧
            documents.get? name = some (scope.lookup name).toJson) ∧
        (name ∉ scope.visible.names → scope.lookup name = .undefined ∨
          name = "this" ∧ ∃ nearer link farther, scope = nearer ++ link :: farther ∧
            link.bindsThis = true ∧ scope.lookup name = .scope (link :: farther)) := by
  refine ⟨_, congrArg Json.object (Value.visibleToJson_eq scope), Dict.names_map _ _,
    Scope.sorted_visible scope, fun name => ?_⟩
  have hnames : name ∈ scope.visible.names ↔ _ := Scope.mem_names_visible_iff h.sorted
  refine ⟨hnames, fun hvisible => ?_, fun hnot => ?_⟩
  · obtain ⟨value, hvalue⟩ := Dict.mem_names_iff.mp hvisible
    rw [h.formed.lookup_of_visible h.sorted hvalue, Dict.get?_map, hvalue]
    exact ⟨rfl, rfl⟩
  · exact Scope.lookup_of_unbound fun link hl hname => hnot (hnames.mpr ⟨link, hl, hname⟩)

/-- A chain of three links: the nearest one binds `this`, which the next one
stands for, and that one hides a binding of the root. -/
def shadowingScope : Scope :=
  [⟨2, [("this", .null)], false⟩, ⟨1, [("a", .integer 3)], true⟩,
    ⟨0, [("a", .integer 1), ("b", .integer 2)], false⟩]

theorem scope_view_agrees_shadowed :
    shadowingScope.Made ∧
      (∃ documents : Dict Json, (Value.scope shadowingScope).toJson = .object documents ∧
        documents.names = ["a", "b", "this"] ∧ documents.get? "a" = some (.integer 3) ∧
        documents.get? "this" = some .null) ∧
      shadowingScope.lookup "this" = .null ∧ shadowingScope.lookup "c" = .undefined := by
  have hmade : shadowingScope.Made :=
    .insert (.child 2 (.insert (.child 1 (.root 0 [("a", .integer 1), ("b", .integer 2)]))
      "a" (.integer 3))) "this" .null
  obtain ⟨documents, hdocument, hnames, -, hagrees⟩ := scope_view_agrees hmade
  have ha := ((hagrees "a").2.1 (by decide)).2
  have hthis := ((hagrees "this").2.1 (by decide)).2
  refine ⟨hmade, ⟨documents, hdocument, hnames, ha, hthis⟩, rfl, ?_⟩
  exact ((hagrees "c").2.2 (by decide)).resolve_right nofun

end BindingLang
