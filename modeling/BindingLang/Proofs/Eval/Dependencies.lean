import BindingLang.Expr.Names
import BindingLang.Proofs.Eval.Closed
/-!
  Dependencies: what the value of an expression hangs on.

  `Expr.names` lists what an expression reads from its scope. Two scopes that
  answer these names alike are as good as one, provided that the expression
  takes hold of the scope itself nowhere else: it has no empty node, calls no
  method of `this`, and `this` is not among its names. A bare call passes on
  what the scope says `this` is, so there the scopes have to agree on it too.

  What is proved:
    1. `eval_eq_of_agree` — node by node, two such scopes lead to the same
       computation.
    2. `eval_stateless` — where the functions of a host ignore its state, so does
       the result of every evaluation.
    3. `eval_determined_by_names` — the names are a sound list of dependencies:
       in any host the two evaluations are one computation, and in a host whose
       functions ignore its state their results are equal from any two states.
-/

namespace BindingLang

variable {σ α β : Type}

/-- What a computation comes to from the given state of the host. -/
def EvalM.result (m : EvalM σ α) (state : σ) : Except EvalError α := (m.run.run state).1

/-- Whether a computation comes to the same from every state of the host. -/
def EvalM.Stateless (m : EvalM σ α) : Prop := ∀ state state', m.result state = m.result state'

/-- A host whose functions depend only on what `this` is and on their arguments. -/
def Host.Pure (host : Host σ) : Prop :=
  ∀ f this arguments, (host.call f this arguments).Stateless

namespace EvalM

theorem result_bind (m : EvalM σ α) (f : α → EvalM σ β) (state : σ) :
    (m >>= f).result state =
      match m.run.run state with
      | (.ok a, next) => (f a).result next
      | (.error e, _) => .error e := by
  unfold result
  rw [run_bind]
  rcases m.run.run state with ⟨_ | _, _⟩ <;> rfl

/-- A computation ignores the state if those that it is put together from do. -/
theorem closed_stateless : Closed fun m : EvalM σ _ => m.Stateless where
  ofExcept _ _ _ := rfl
  bind {_ _ m f} first rest state state' := by
    have h := first state state'
    rw [result_bind, result_bind]
    unfold result at h
    rcases hr : m.run.run state with ⟨r, next⟩
    rcases hr' : m.run.run state' with ⟨r', next'⟩
    rw [hr, hr'] at h
    change r = r' at h
    subst h
    cases r with
    | ok a => exact rest a next next'
    | error e => rfl

end EvalM

open EvalM

/-- Taking note of a built-in method always succeeds. -/
theorem Host.Pure.within {host : Host σ} (hp : host.Pure) : host.Within fun m => m.Stateless where
  call := hp
  note _ _ _ _ _ := rfl

namespace Expr

/-- Functions that ignore the state of the host make for results that do. -/
theorem eval_stateless {host : Host σ} (scope : Scope) (hp : host.Pure) (e : Expr) :
    (e.eval host scope).Stateless :=
  eval_closed closed_stateless hp.within scope e

/-- Whether the node is the call of a method directly on `this`. -/
def callsThisMethod : Expr → Bool
  | .invoke receiver (some _) _ => receiver.isThis
  | _ => false

/-- Whether the node is the call of a value that is no method. -/
def isBareCall : Expr → Bool
  | .invoke _ none _ => true
  | _ => false

/-- What a node asks of two scopes besides the names it reads: that it does not
take hold of the scope, and that a bare call passes on the same `this`. -/
def Tolerates (s t : Scope) (node : Expr) : Prop :=
  node ≠ .empty ∧ node.callsThisMethod = false ∧
    (node.isBareCall = true → s.lookup "this" = t.lookup "this" ∧ s.lookup "this" ≠ .undefined)

section Agreement

variable {host : Host σ} {s t : Scope}

theorem isThis_iff {e : Expr} : e.isThis = true ↔ e = .id "this" := by
  cases e <;> simp [isThis]

theorem literalKey?_eq_some {e : Expr} {key : String} :
    e.literalKey? = some key ↔ e = .literal (.string key) := by
  constructor
  · intro h
    unfold literalKey? at h
    split at h
    · simp only [Option.some.injEq] at h; rw [h]
    · simp at h
  · rintro rfl; rfl

theorem names_index {receiver argument : Expr}
    (h : ¬ ∃ key, receiver.isThis = true ∧ argument.literalKey? = some key) :
    (index receiver argument).names = receiver.names ++ argument.names := by
  simp only [names]
  split
  · rename_i key hr ha; exact absurd ⟨key, hr, ha⟩ h
  · rfl

theorem names_invoke {receiver : Expr} {method : Option String} {arguments : List Expr}
    (h : (invoke receiver method arguments).callsThisMethod = false) :
    (invoke receiver method arguments).names = receiver.names ++ namesOfItems arguments := by
  simp only [names]
  split
  · rename_i name hr; rw [callsThisMethod, hr] at h; cases h
  · rfl

theorem mem_namesOfItems {name : String} {items : List Expr} :
    name ∈ namesOfItems items ↔ ∃ item ∈ items, name ∈ item.names := by
  induction items with
  | nil => simp [namesOfItems]
  | cons item items ih => simp [namesOfItems, ih]

theorem mem_namesOfEntries {name : String} {entries : List (String × Expr)} :
    name ∈ namesOfEntries entries ↔ ∃ entry ∈ entries, name ∈ entry.2.names := by
  induction entries with
  | nil => simp [namesOfEntries]
  | cons entry entries ih => simp [namesOfEntries, ih]

theorem evalItems_congr {items : List Expr}
    (h : ∀ item ∈ items, item.eval host s = item.eval host t) :
    evalItems host s items = evalItems host t items := by
  induction items with
  | nil => rfl
  | cons item items ih =>
    simp only [evalItems]
    rw [h item List.mem_cons_self, ih fun other ho => h other (List.mem_cons_of_mem _ ho)]

theorem evalEntries_congr {entries : List (String × Expr)}
    (h : ∀ entry ∈ entries, entry.2.eval host s = entry.2.eval host t) :
    evalEntries host s entries = evalEntries host t entries := by
  induction entries with
  | nil => rfl
  | cons entry entries ih =>
    simp only [evalEntries]
    rw [h entry List.mem_cons_self, ih fun other ho => h other (List.mem_cons_of_mem _ ho)]

theorem implicitThis_congr (h : s.lookup "this" = t.lookup "this")
    (hne : s.lookup "this" ≠ .undefined) : implicitThis s = implicitThis t := by
  unfold implicitThis
  rw [← h]
  split
  · rename_i hu; exact absurd hu hne
  · rfl

/-- A member read directly on `this` is a lookup in the scope. -/
theorem eval_getter_this (scope : Scope) (name : String) :
    (getter (.id "this") name).eval host scope = pure (scope.lookup name) := by
  simp only [eval, if_true, pure_bind]
  rfl

/-- So is a read on `this` under the key of a string literal. -/
theorem eval_index_this (scope : Scope) (key : String) :
    (index (.id "this") (.literal (.string key))).eval host scope = pure (scope.lookup key) := by
  simp only [eval, if_true, pure_bind]
  rfl

/-- Two scopes that answer the names of a tree alike, and that its nodes
tolerate, are as good as one. -/
theorem eval_eq_of_agree {e : Expr} (hnodes : e.Every (Tolerates s t))
    (hnames : ∀ name ∈ e.names, name ≠ "this" ∧ s.lookup name = t.lookup name) :
    e.eval host s = e.eval host t := by
  -- Each child has some of the nodes and some of the names, but for the children
  -- of a node that reads from `this`, whose names are other than the node's.
  induction e using Expr.induct with
  | empty => exact absurd rfl hnodes.self.1
  | literal value => rfl
  | id name =>
    obtain ⟨hne, heq⟩ := hnames name (by simp [names])
    simp only [eval, if_neg hne, heq]
  | unary operator child ih =>
    have hchild := ih (every_unary.mp hnodes).2 (fun x hx => hnames x (by simp [names, hx]))
    simp only [eval]
    rw [hchild]
  | binary operator left right ihl ihr =>
    obtain ⟨-, hl, hr⟩ := every_binary.mp hnodes
    have hleft := ihl hl (fun x hx => hnames x (by simp [names, hx]))
    have hright := ihr hr (fun x hx => hnames x (by simp [names, hx]))
    simp only [eval]
    rw [hleft, hright]
  | getter receiver name ih =>
    by_cases hthis : receiver.isThis = true
    · -- The receiver differs in the two runs, but only its member is used.
      rw [isThis_iff] at hthis
      subst hthis
      rw [eval_getter_this, eval_getter_this, (hnames name (by simp [names, isThis])).2]
    · have hreceiver := ih (every_getter.mp hnodes).2
        (fun x hx => hnames x (by simp [names, hthis, hx]))
      simp only [eval]
      rw [hreceiver]
  | index receiver argument ihr iha =>
    by_cases hkey : ∃ key, receiver.isThis = true ∧ argument.literalKey? = some key
    · obtain ⟨key, hthis, hkey⟩ := hkey
      rw [isThis_iff] at hthis
      rw [literalKey?_eq_some] at hkey
      subst hthis hkey
      rw [eval_index_this, eval_index_this, (hnames key (by simp [names, isThis, literalKey?])).2]
    · rw [names_index hkey] at hnames
      obtain ⟨-, hr, ha⟩ := every_index.mp hnodes
      have hreceiver := ihr hr (fun x hx => hnames x (by simp [hx]))
      have hargument := iha ha (fun x hx => hnames x (by simp [hx]))
      simp only [eval]
      rw [hreceiver, hargument]
  | ternary condition whenTrue whenFalse ihc iht ihf =>
    obtain ⟨-, hc, ht, hf⟩ := every_ternary.mp hnodes
    have hcondition := ihc hc (fun x hx => hnames x (by simp [names, hx]))
    have htrue := iht ht (fun x hx => hnames x (by simp [names, hx]))
    have hfalse := ihf hf (fun x hx => hnames x (by simp [names, hx]))
    simp only [eval]
    rw [hcondition, htrue, hfalse]
  | map entries ih =>
    obtain ⟨-, hentries⟩ := every_map.mp hnodes
    simp only [eval]
    rw [evalEntries_congr fun entry he => ih entry he (hentries entry he)
      (fun x hx => hnames x (by simp only [names, mem_namesOfEntries]; exact ⟨entry, he, hx⟩))]
  | list items ih =>
    obtain ⟨-, hitems⟩ := every_list.mp hnodes
    simp only [eval]
    rw [evalItems_congr fun item hi => ih item hi (hitems item hi)
      (fun x hx => hnames x (by simp only [names, mem_namesOfItems]; exact ⟨item, hi, hx⟩))]
  | invoke receiver method arguments ihr iha =>
    obtain ⟨⟨-, hmethod, hbare⟩, hr, hitems⟩ := every_invoke.mp hnodes
    rw [names_invoke hmethod] at hnames
    have hreceiver : receiver.eval host s = receiver.eval host t :=
      ihr hr (fun x hx => hnames x (by simp [hx]))
    have harguments : evalItems host s arguments = evalItems host t arguments :=
      evalItems_congr fun item hi => iha item hi (hitems item hi) (fun x hx => hnames x
        (by simp only [List.mem_append, mem_namesOfItems]; exact Or.inr ⟨item, hi, hx⟩))
    cases method with
    | none =>
      obtain ⟨hlookup, hne⟩ := hbare rfl
      simp only [eval]
      rw [hreceiver, harguments, implicitThis_congr hlookup hne]
    | some method =>
      simp only [eval]
      rw [hreceiver, harguments]

/-- The names of a tree are a sound list of what its value hangs on. -/
theorem eval_determined_by_names (host : Host σ) (e : Expr) (s t : Scope)
    (hempty : ∀ node ∈ e.nodes, node ≠ .empty)
    (hmethod : ∀ node ∈ e.nodes, node.callsThisMethod = false)
    (hthis : "this" ∉ e.namesAfter [])
    (hnames : ∀ name ∈ e.namesAfter [], s.lookup name = t.lookup name)
    (hbare : (∃ node ∈ e.nodes, node.isBareCall = true) →
      s.lookup "this" = t.lookup "this" ∧ s.lookup "this" ≠ .undefined) :
    e.eval host s = e.eval host t ∧
      (host.Pure → ∀ state state',
        (e.eval host s).result state = (e.eval host t).result state') := by
  have heq : e.eval host s = e.eval host t := by
    apply eval_eq_of_agree
    · intro node hn
      exact ⟨hempty node hn, hmethod node hn, fun hb => hbare ⟨node, hn, hb⟩⟩
    · intro name hn
      refine ⟨?_, hnames name hn⟩
      rintro rfl
      exact hthis hn
  refine ⟨heq, fun hp state state' => ?_⟩
  rw [heq]
  exact eval_stateless t hp e state state'

end Agreement

/-- A host whose functions all give back their first argument. -/
def echoHost : Host Unit where
  call _ _ arguments := pure (arguments.head?.getD .undefined)

/-- The tree of `this.a + f(b)`. -/
def memberPlusCall : Expr :=
  .binary "+" (.getter (.id "this") "a") (.invoke (.id "f") none [.id "b"])

/-- A scope of one link that binds what `this.a + f(b)` reads, and `c`. -/
def oneLink : Scope :=
  [⟨0, [("a", .integer 1), ("b", .integer 2), ("c", .integer 3), ("f", .function ⟨"f", 0⟩),
    ("this", .string "self")], false⟩]

/-- A scope of two links that agrees with `oneLink` on all names but `c`. -/
def twoLinks : Scope :=
  [⟨2, [("b", .integer 2), ("c", .null)], false⟩,
    ⟨1, [("a", .integer 1), ("f", .function ⟨"f", 0⟩), ("this", .string "self")], false⟩]

theorem eval_determined_by_names_of_chain :
    (∀ name ∈ memberPlusCall.namesAfter [], oneLink.lookup name = twoLinks.lookup name) ∧
      oneLink.lookup "c" ≠ twoLinks.lookup "c" ∧
      memberPlusCall.eval echoHost oneLink = memberPlusCall.eval echoHost twoLinks ∧
      ∀ state state', (memberPlusCall.eval echoHost oneLink).result state =
        (memberPlusCall.eval echoHost twoLinks).result state' := by
  have hnames : ∀ name ∈ memberPlusCall.namesAfter [],
      oneLink.lookup name = twoLinks.lookup name := by
    intro name hn
    rw [show memberPlusCall.namesAfter [] = ["a", "f", "b"] from rfl] at hn
    simp only [List.mem_cons, List.not_mem_nil, or_false] at hn
    rcases hn with rfl | rfl | rfl <;> rfl
  have h := eval_determined_by_names echoHost memberPlusCall oneLink twoLinks
    (by simp [memberPlusCall, nodes, nodesOfItems])
    (by simp [memberPlusCall, nodes, nodesOfItems, callsThisMethod])
    (by simp [memberPlusCall, namesAfter, names, namesOfItems, isThis])
    hnames
    (fun _ => ⟨rfl, by simp [oneLink, Scope.lookup, Dict.get?]⟩)
  exact ⟨hnames, by simp [oneLink, twoLinks, Scope.lookup, Dict.get?], h.1,
    h.2 fun _ _ _ _ _ => rfl⟩

end Expr

end BindingLang
