import BindingLang.Proofs.Eval.Dependencies
import BindingLang.Proofs.Eval.Faults
/-!
  Which calls an evaluation makes, and in which order.

  The nodes that call are calls and filters. A node calls after all of its operands
  have values, so the calls come in the order in which a walk through the tree leaves
  these nodes; of a choice only the branch is walked that its condition selects. Both
  operands of `&&` and `||` are walked. A node that is left without a call is one that
  failed, and then all nodes after it are left without one.

  What is proved:
    1. `Accounts.bind` — accounts of computations, one after the other.
    2. `sites_unreached` — nothing is called that is not reached.
    3. `sites_sublist` — the sites are in the order of the tree.
    4. `calls_in_order` — the calls of an evaluation are those of its sites, each once
       and in order, all of them where it succeeds.
-/

namespace BindingLang

variable {σ α β : Type}

/-- A call that an evaluation makes: of a function of the surroundings, or of a built-in
method. -/
inductive HostCall where
  | function (f : Function) (this : Value) (arguments : List Value)
  | builtin (receiver : Value) (method : String) (arguments : List Value)

namespace HostCall

/-- The call of a value, which has to be a function. -/
def ofCallee? (callee this : Value) (arguments : List Value) : Option HostCall :=
  match callee with
  | .function f => some (.function f this arguments)
  | _ => none

/-- The call of a method: of the member of that name, or of the built-in one where there
is no such member. -/
def ofMember? (member receiver : Value) (method : String) (arguments : List Value) :
    Option HostCall :=
  match member with
  | .undefined => some (.builtin receiver method arguments)
  | callee => ofCallee? callee receiver arguments

end HostCall

/-! ## Hosts that keep a log -/

/-- Whether `log` tells what a host has been asked to call: every call of a function and
every note of a built-in method adds itself, and nothing else. So the functions make no
calls of their own. -/
structure Host.Logs (host : Host σ) (log : σ → List HostCall) : Prop where
  call : ∀ f this arguments state,
    log ((host.call f this arguments).run.run state).2 =
      log state ++ [.function f this arguments]
  note : ∀ receiver method arguments state,
    log (host.noteBuiltin receiver method arguments state) =
      log state ++ [.builtin receiver method arguments]

/-- The host that keeps a log besides. -/
def Host.logged (host : Host σ) : Host (σ × List HostCall) where
  call f this arguments := ExceptT.mk fun (state, calls) =>
    let (outcome, next) := (host.call f this arguments).run.run state
    (outcome, next, calls ++ [.function f this arguments])
  noteBuiltin receiver method arguments := fun (state, calls) =>
    (host.noteBuiltin receiver method arguments state,
      calls ++ [.builtin receiver method arguments])

theorem Host.logged_logs (host : Host σ) : host.logged.Logs Prod.snd where
  call _ _ _ _ := rfl
  note _ _ _ _ := rfl

/-! ## Sites -/

/-- A node that calls, with its call, or none where it is not reached or fails before. -/
structure Site where
  node : Expr
  call? : Option HostCall

/-- Whether none of the sites has a call. -/
def Unreached (sites : List Site) : Prop := ∀ site ∈ sites, site.call? = none

@[simp] theorem unreached_nil : Unreached [] := fun _ h => absurd h List.not_mem_nil

@[simp] theorem unreached_cons {site : Site} {sites : List Site} :
    Unreached (site :: sites) ↔ site.call? = none ∧ Unreached sites := List.forall_mem_cons

@[simp] theorem unreached_append {sites sites' : List Site} :
    Unreached (sites ++ sites') ↔ Unreached sites ∧ Unreached sites' := List.forall_mem_append

/-- What a computation comes to, and the state it leaves, where it is started and
succeeds. -/
def EvalM.arrive (m : EvalM σ α) (start : Option σ) : Option (α × σ) :=
  start.bind fun state =>
    match m.run.run state with
    | (.ok a, next) => some (a, next)
    | (.error _, _) => none

@[simp] theorem EvalM.arrive_none (m : EvalM σ α) : m.arrive none = none := rfl

namespace Expr

/-- The site of an operator between two operands: only a filter has one. -/
def operatorSites (operator : String) (left right : Expr) (input filter : Option Value) :
    List Site :=
  if operator = "|" then
    [⟨.binary operator left right, do HostCall.ofCallee? (← filter) .undefined [← input]⟩]
  else []

/-- The site of the call of a plain function. -/
def plainSite (scope : Scope) (receiver : Expr) (arguments : List Expr)
    (callee : Option Value) (values : Option (List Value)) : Site :=
  ⟨.invoke receiver none arguments,
    do HostCall.ofCallee? (← callee) (implicitThis scope) (← values)⟩

/-- The site of the call of a method, whose member is looked up on the value of the
receiver. -/
def methodSite (receiver : Expr) (method : String) (arguments : List Expr)
    (value member : Option Value) (values : Option (List Value)) : Site :=
  ⟨.invoke receiver (some method) arguments,
    do HostCall.ofMember? (← member) (← value) method (← values)⟩

/-- The branch of a choice that is walked, and the state that the walk of it starts from:
the one that the condition selects, and none where the condition fails. Where the
condition is not reached, `pick` tells. -/
def branch? (pick : Expr → Option Bool) (condition : Expr) (start : Option σ)
    (selected : Option (Value × σ)) : Option (Bool × Option σ) :=
  match selected, start with
  | some (value, next), _ => some (value.isTruthy, some next)
  | none, some _ => none
  | none, none => (pick condition).map fun branch => (branch, none)

mutual

/-- The nodes that call, each after its operands, in both branches of every choice. -/
def callNodes : Expr → List Expr
  | .empty => []
  | .literal _ => []
  | .id _ => []
  | .unary _ child => callNodes child
  | .binary operator left right =>
    callNodes left ++ (callNodes right ++
      if operator = "|" then [.binary operator left right] else [])
  | .getter receiver _ => callNodes receiver
  | .index receiver argument => callNodes receiver ++ callNodes argument
  | .ternary condition whenTrue whenFalse =>
    callNodes condition ++ (callNodes whenTrue ++ callNodes whenFalse)
  | .map entries => callNodesOfEntries entries
  | .list items => callNodesOfItems items
  | .invoke receiver method arguments =>
    callNodes receiver ++ (callNodesOfItems arguments ++ [.invoke receiver method arguments])
termination_by structural e => e

def callNodesOfItems : List Expr → List Expr
  | [] => []
  | item :: items => callNodes item ++ callNodesOfItems items
termination_by structural items => items

def callNodesOfEntries : List (String × Expr) → List Expr
  | [] => []
  | (_, node) :: entries => callNodes node ++ callNodesOfEntries entries
termination_by structural entries => entries

end

section

variable (host : Host σ) (scope : Scope) (pick : Expr → Option Bool)

mutual

/-- The nodes that call, in the order of a walk through the tree that leaves each node
after its operands, with the calls that they come to when the walk starts in a state of
the host, if in any. -/
def sites : Expr → Option σ → List Site
  | .empty, _ => []
  | .literal _, _ => []
  | .id _, _ => []
  | .unary _ child, start => sites child start
  | .binary operator left right, start =>
    let input := (left.eval host scope).arrive start
    let filter := (right.eval host scope).arrive (input.map Prod.snd)
    sites left start ++ (sites right (input.map Prod.snd) ++
      operatorSites operator left right (input.map Prod.fst) (filter.map Prod.fst))
  | .getter receiver _, start => sites receiver start
  | .index receiver argument, start =>
    let value := (receiver.eval host scope).arrive start
    sites receiver start ++ sites argument (value.map Prod.snd)
  | .ternary condition whenTrue whenFalse, start =>
    let value := (condition.eval host scope).arrive start
    sites condition start ++
      match branch? pick condition start value with
      | some (true, next) => sites whenTrue next
      | some (false, next) => sites whenFalse next
      | none => []
  | .map entries, start => sitesOfEntries entries start
  | .list items, start => sitesOfItems items start
  | .invoke receiver (some method) arguments, start =>
    let value := (receiver.eval host scope).arrive start
    let member := value.bind fun (value, next) =>
      (EvalM.ofExcept (value.member method)).arrive (some next)
    let values := (evalItems host scope arguments).arrive (member.map Prod.snd)
    sites receiver start ++ (sitesOfItems arguments (member.map Prod.snd) ++
      [methodSite receiver method arguments (value.map Prod.fst) (member.map Prod.fst)
        (values.map Prod.fst)])
  | .invoke receiver none arguments, start =>
    let callee := (receiver.eval host scope).arrive start
    let values := (evalItems host scope arguments).arrive (callee.map Prod.snd)
    sites receiver start ++ (sitesOfItems arguments (callee.map Prod.snd) ++
      [plainSite scope receiver arguments (callee.map Prod.fst) (values.map Prod.fst)])
termination_by structural e => e

def sitesOfItems : List Expr → Option σ → List Site
  | [], _ => []
  | item :: items, start =>
    let value := (item.eval host scope).arrive start
    sites item start ++ sitesOfItems items (value.map Prod.snd)
termination_by structural items => items

def sitesOfEntries : List (String × Expr) → Option σ → List Site
  | [], _ => []
  | (_, node) :: entries, start =>
    let value := (node.eval host scope).arrive start
    sites node start ++ sitesOfEntries entries (value.map Prod.snd)
termination_by structural entries => entries

end

end

end Expr

/-! ## Accounts -/

/-- Whether the sites account for what `m` calls from `state`: the calls are those of the
first of them, each once and in order, and the others have none; where `m` succeeds there
are no others. -/
def Accounts (log : σ → List HostCall) (m : EvalM σ α) (state : σ) (sites : List Site) : Prop :=
  ∃ calls rest, log (m.run.run state).2 = log state ++ calls ∧
    sites.map Site.call? = calls.map some ++ rest ∧ (∀ call ∈ rest, call = none) ∧
    ∀ a, (m.run.run state).1 = .ok a → rest = []

namespace Accounts

variable {log : σ → List HostCall} {m : EvalM σ α} {f : α → EvalM σ β} {state : σ}
  {sites : List Site}

/-- What does not concern the host calls nothing. -/
theorem ofExcept (result : Except EvalError α) :
    Accounts log (EvalM.ofExcept result : EvalM σ α) state [] :=
  ⟨[], [], (List.append_nil _).symm, rfl, fun _ h => absurd h List.not_mem_nil, fun _ _ => rfl⟩

theorem pure' (a : α) : Accounts log (pure a : EvalM σ α) state [] := ofExcept (.ok a)

/-- A failure calls nothing, at whatever sites it leaves. -/
theorem throw' (e : EvalError) (h : Unreached sites) :
    Accounts log (throw e : EvalM σ α) state sites := by
  refine ⟨[], sites.map Site.call?, (List.append_nil _).symm, rfl, ?_, ?_⟩
  · intro call hcall
    obtain ⟨site, hsite, rfl⟩ := List.mem_map.mp hcall
    exact h site hsite
  · intro a ha
    cases ha

/-- One computation after the other: what is left of the sites when the first one fails
is not reached. -/
theorem bind (next : Option (α × σ) → List Site) (hm : Accounts log m state sites)
    (hf : ∀ a state', Accounts log (f a) state' (next (some (a, state'))))
    (hnext : Unreached (next none)) :
    Accounts log (m >>= f) state (sites ++ next (m.arrive (some state))) := by
  obtain ⟨calls, rest, hlog, hsites, hrest, hdone⟩ := hm
  have harrive : m.arrive (some state) =
      match m.run.run state with
      | (.ok a, state') => some (a, state')
      | (.error _, _) => none := rfl
  have hrun := EvalM.run_bind m f state
  rw [harrive]
  generalize m.run.run state = outcome at hlog hdone hrun ⊢
  rcases outcome with ⟨e | a, state'⟩
  · refine ⟨calls, rest ++ (next none).map Site.call?, ?_, ?_, ?_, ?_⟩
    · rw [hrun]
      exact hlog
    · rw [List.map_append, hsites, List.append_assoc]
    · intro call hcall
      obtain hcall | hcall := List.mem_append.mp hcall
      · exact hrest call hcall
      · obtain ⟨site, hsite, rfl⟩ := List.mem_map.mp hcall
        exact hnext site hsite
    · intro b hb
      rw [hrun] at hb
      cases hb
  · obtain rfl := hdone a rfl
    obtain ⟨more, rest', hlog', hsites', hrest', hdone'⟩ := hf a state'
    refine ⟨calls ++ more, rest', ?_, ?_, hrest', ?_⟩
    · rw [hrun]
      calc log ((f a).run.run state').2 = log state' ++ more := hlog'
        _ = log state ++ calls ++ more := congrArg (· ++ more) hlog
        _ = log state ++ (calls ++ more) := List.append_assoc _ _ _
    · rw [List.map_append, hsites, List.append_nil, hsites', List.map_append, List.append_assoc]
    · rw [hrun]
      exact hdone'

/-- What follows may call nothing. -/
theorem bind_quiet (hm : Accounts log m state sites)
    (hf : ∀ a state', Accounts log (f a) state' []) : Accounts log (m >>= f) state sites := by
  have hbind := bind (fun _ => []) hm hf unreached_nil
  rwa [List.append_nil] at hbind

end Accounts

open Accounts

section Evaluation

variable {host : Host σ} {log : σ → List HostCall} (hlog : host.Logs log)

/-! ## Calls of the host -/

namespace Host

include hlog

theorem accounts_callValue (callee this : Value) (arguments : List Value) (label : String)
    (state : σ) (node : Expr) :
    Accounts log (host.callValue callee this arguments label) state
      [⟨node, HostCall.ofCallee? callee this arguments⟩] := by
  cases callee with
  | function f =>
    exact ⟨[.function f this arguments], [], hlog.call f this arguments state, rfl,
      fun _ h => absurd h List.not_mem_nil, fun _ _ => rfl⟩
  | _ => exact throw' _ (by simp [HostCall.ofCallee?])

theorem accounts_callBuiltin (receiver : Value) (method : String) (arguments : List Value)
    (state : σ) (node : Expr) :
    Accounts log (host.callBuiltin receiver method arguments) state
      [⟨node, some (.builtin receiver method arguments)⟩] := by
  have hnote : Accounts log (modify (host.noteBuiltin receiver method arguments) : EvalM σ Unit)
      state [⟨node, some (.builtin receiver method arguments)⟩] :=
    ⟨[.builtin receiver method arguments], [], hlog.note receiver method arguments state, rfl,
      fun _ h => absurd h List.not_mem_nil, fun _ _ => rfl⟩
  exact bind_quiet hnote fun _ _ => ofExcept _

/-- A method call calls the member, and the built-in method where there is none. -/
theorem accounts_callMember (member receiver : Value) (method : String)
    (arguments : List Value) (state : σ) (node : Expr) :
    Accounts log
      (match member with
        | .undefined => host.callBuiltin receiver method arguments
        | callee => host.callValue callee receiver arguments method) state
      [⟨node, HostCall.ofMember? member receiver method arguments⟩] := by
  cases member with
  | undefined => exact accounts_callBuiltin hlog receiver method arguments state node
  | _ => exact accounts_callValue hlog _ receiver arguments method state node

/-- Of the operators only a filter calls. -/
theorem accounts_applyBinary (operator : String) (input filter : Value) (state : σ)
    (left right : Expr) :
    Accounts log (host.applyBinary operator input filter) state
      (Expr.operatorSites operator left right (some input) (some filter)) := by
  by_cases hfilter : operator = "|"
  · subst hfilter
    exact accounts_callValue hlog filter .undefined [input] _ state _
  · have hsites : Expr.operatorSites operator left right (some input) (some filter) = [] :=
      if_neg hfilter
    rw [hsites, applyBinary]
    split
    · rename_i symbol hsymbol
      cases symbol with
      | filter => exact absurd (BinaryOperator.ofSymbol?_eq_some_iff.mp hsymbol) hfilter
      | arithmetic operation => cases operation <;> exact ofExcept _
      | compare comparison => exact ofExcept _
      | _ => exact pure' _
    · exact throw' _ unreached_nil

end Host

/-! ## Sites of an evaluation -/

namespace Expr

variable {scope : Scope} {pick : Expr → Option Bool}

section Unreached

variable {items : List Expr} {entries : List (String × Expr)}

theorem sitesOfItems_unreached
    (h : ∀ item ∈ items, Unreached (item.sites host scope pick none)) :
    Unreached (sitesOfItems host scope pick items none) := by
  induction items with
  | nil => exact unreached_nil
  | cons item items ih =>
    exact unreached_append.mpr ⟨h item List.mem_cons_self,
      ih fun other ho => h other (List.mem_cons_of_mem _ ho)⟩

theorem sitesOfEntries_unreached
    (h : ∀ entry ∈ entries, Unreached (entry.2.sites host scope pick none)) :
    Unreached (sitesOfEntries host scope pick entries none) := by
  induction entries with
  | nil => exact unreached_nil
  | cons entry entries ih =>
    exact unreached_append.mpr ⟨h entry List.mem_cons_self,
      ih fun other ho => h other (List.mem_cons_of_mem _ ho)⟩

theorem operatorSites_unreached (operator : String) (left right : Expr)
    (input : Option Value) : Unreached (operatorSites operator left right input none) := by
  by_cases hfilter : operator = "|"
  · subst hfilter
    exact unreached_cons.mpr ⟨rfl, unreached_nil⟩
  · have hsites : operatorSites operator left right input none = [] := if_neg hfilter
    rw [hsites]
    exact unreached_nil

/-- A walk that does not start calls nothing. -/
theorem sites_unreached (host : Host σ) (scope : Scope) (pick : Expr → Option Bool) (e : Expr) :
    Unreached (e.sites host scope pick none) := by
  induction e using Expr.induct with
  | empty | literal | id => exact unreached_nil
  | unary operator child ih => exact ih
  | getter receiver name ih => exact ih
  | binary operator left right ihl ihr =>
    exact unreached_append.mpr ⟨ihl, unreached_append.mpr ⟨ihr, operatorSites_unreached _ _ _ _⟩⟩
  | index receiver argument ihr iha =>
    exact unreached_append.mpr ⟨ihr, iha⟩
  | ternary condition whenTrue whenFalse ihc iht ihf =>
    refine unreached_append.mpr ⟨ihc, ?_⟩
    have hbranch : branch? pick condition (none : Option σ) none =
        (pick condition).map fun branch => (branch, none) := rfl
    rw [EvalM.arrive_none, hbranch]
    cases pick condition with
    | none => exact unreached_nil
    | some branch =>
      cases branch with
      | true => exact iht
      | false => exact ihf
  | map entries ih => exact sitesOfEntries_unreached ih
  | list items ih => exact sitesOfItems_unreached ih
  | invoke receiver method arguments ihr iha =>
    have hitems := sitesOfItems_unreached iha
    cases method with
    | none =>
      exact unreached_append.mpr ⟨ihr, unreached_append.mpr
        ⟨hitems, unreached_cons.mpr ⟨rfl, unreached_nil⟩⟩⟩
    | some method =>
      exact unreached_append.mpr ⟨ihr, unreached_append.mpr
        ⟨hitems, unreached_cons.mpr ⟨rfl, unreached_nil⟩⟩⟩

end Unreached

section Order

variable {items : List Expr} {entries : List (String × Expr)}

theorem sitesOfItems_sublist (start : Option σ)
    (h : ∀ item ∈ items, ∀ start,
      ((item.sites host scope pick start).map Site.node).Sublist item.callNodes) :
    ((sitesOfItems host scope pick items start).map Site.node).Sublist
      (callNodesOfItems items) := by
  induction items generalizing start with
  | nil => exact List.Sublist.slnil
  | cons item items ih =>
    show List.Sublist (List.map _ (_ ++ _)) (_ ++ _)
    rw [List.map_append]
    exact (h item List.mem_cons_self start).append
      (ih _ fun other ho => h other (List.mem_cons_of_mem _ ho))

theorem sitesOfEntries_sublist (start : Option σ)
    (h : ∀ entry ∈ entries, ∀ start,
      ((entry.2.sites host scope pick start).map Site.node).Sublist entry.2.callNodes) :
    ((sitesOfEntries host scope pick entries start).map Site.node).Sublist
      (callNodesOfEntries entries) := by
  induction entries generalizing start with
  | nil => exact List.Sublist.slnil
  | cons entry entries ih =>
    show List.Sublist (List.map _ (_ ++ _)) (_ ++ _)
    rw [List.map_append]
    exact (h entry List.mem_cons_self start).append
      (ih _ fun other ho => h other (List.mem_cons_of_mem _ ho))

/-- The sites come in the order of the tree. -/
theorem sites_sublist (host : Host σ) (scope : Scope) (pick : Expr → Option Bool) (e : Expr)
    (start : Option σ) :
    ((e.sites host scope pick start).map Site.node).Sublist e.callNodes := by
  induction e using Expr.induct generalizing start with
  | empty | literal | id => exact List.Sublist.slnil
  | unary operator child ih => exact ih start
  | getter receiver name ih => exact ih start
  | binary operator left right ihl ihr =>
    show List.Sublist (List.map _ (_ ++ (_ ++ _))) (_ ++ (_ ++ _))
    rw [List.map_append, List.map_append]
    refine (ihl start).append ((ihr _).append ?_)
    by_cases hfilter : operator = "|"
    · subst hfilter
      exact List.Sublist.refl _
    · have hsites (input filter : Option Value) :
          operatorSites operator left right input filter = [] := if_neg hfilter
      rw [hsites]
      exact List.nil_sublist _
  | index receiver argument ihr iha =>
    show List.Sublist (List.map _ (_ ++ _)) (_ ++ _)
    rw [List.map_append]
    exact (ihr start).append (iha _)
  | ternary condition whenTrue whenFalse ihc iht ihf =>
    show List.Sublist (List.map _ (_ ++ _)) (_ ++ _)
    rw [List.map_append]
    refine (ihc start).append ?_
    split
    · exact (iht _).trans (List.sublist_append_left _ _)
    · exact (ihf _).trans (List.sublist_append_right _ _)
    · exact List.nil_sublist _
  | map entries ih => exact sitesOfEntries_sublist start ih
  | list items ih => exact sitesOfItems_sublist start ih
  | invoke receiver method arguments ihr iha =>
    cases method with
    | none | some method =>
      show List.Sublist (List.map _ (_ ++ (_ ++ _))) (_ ++ (_ ++ _))
      rw [List.map_append, List.map_append]
      exact (ihr start).append ((sitesOfItems_sublist _ iha).append (List.Sublist.refl _))

end Order

/-! ## The calls of an evaluation -/

variable {items : List Expr} {entries : List (String × Expr)}

theorem evalItems_accounts
    (h : ∀ item ∈ items, ∀ state,
      Accounts log (item.eval host scope) state (item.sites host scope pick (some state)))
    (state : σ) :
    Accounts log (evalItems host scope items) state
      (sitesOfItems host scope pick items (some state)) := by
  induction items generalizing state with
  | nil => exact pure' _
  | cons item items ih =>
    have hrest (next : σ) := ih (fun other ho => h other (List.mem_cons_of_mem _ ho)) next
    show Accounts log (_ >>= _) state (_ ++ _)
    apply bind (fun value : Option (Value × σ) =>
      sitesOfItems host scope pick items (value.map Prod.snd)) (h item List.mem_cons_self state)
    · intro value next
      exact bind_quiet (hrest next) fun values _ => pure' _
    · exact sitesOfItems_unreached fun other _ => sites_unreached host scope pick other

theorem evalEntries_accounts
    (h : ∀ entry ∈ entries, ∀ state,
      Accounts log (entry.2.eval host scope) state (entry.2.sites host scope pick (some state)))
    (state : σ) :
    Accounts log (evalEntries host scope entries) state
      (sitesOfEntries host scope pick entries (some state)) := by
  induction entries generalizing state with
  | nil => exact pure' _
  | cons entry entries ih =>
    have hrest (next : σ) := ih (fun other ho => h other (List.mem_cons_of_mem _ ho)) next
    show Accounts log (_ >>= _) state (_ ++ _)
    apply bind (fun value : Option (Value × σ) =>
      sitesOfEntries host scope pick entries (value.map Prod.snd)) (h entry List.mem_cons_self state)
    · intro value next
      exact bind_quiet (hrest next) fun values _ => pure' _
    · exact sitesOfEntries_unreached fun other _ => sites_unreached host scope pick other.2

include hlog in
/-- The sites of a tree account for what its evaluation calls. -/
theorem eval_accounts (scope : Scope) (pick : Expr → Option Bool) (e : Expr) (state : σ) :
    Accounts log (e.eval host scope) state (e.sites host scope pick (some state)) := by
  induction e using Expr.induct generalizing state with
  | empty | literal | id => exact pure' _
  | unary operator child ih =>
    exact bind_quiet (ih state) fun operand _ => ofExcept _
  | getter receiver name ih =>
    exact bind_quiet (ih state) fun value _ => ofExcept _
  | binary operator left right ihl ihr =>
    show Accounts log (_ >>= _) state (_ ++ _)
    apply bind (fun input : Option (Value × σ) =>
      sites host scope pick right (input.map Prod.snd) ++
        operatorSites operator left right (input.map Prod.fst)
          (((right.eval host scope).arrive (input.map Prod.snd)).map Prod.fst)) (ihl state)
    · intro input next
      apply bind (fun filter : Option (Value × σ) =>
        operatorSites operator left right (some input) (filter.map Prod.fst)) (ihr next)
      · intro filter next'
        exact Host.accounts_applyBinary hlog operator input filter next' left right
      · exact operatorSites_unreached operator left right (some input)
    · exact unreached_append.mpr
        ⟨sites_unreached host scope pick right, operatorSites_unreached operator left right none⟩
  | index receiver argument ihr iha =>
    show Accounts log (_ >>= _) state (_ ++ _)
    apply bind (fun value : Option (Value × σ) =>
      sites host scope pick argument (value.map Prod.snd)) (ihr state)
    · intro value next
      exact bind_quiet (iha next) fun key _ => ofExcept _
    · exact sites_unreached host scope pick argument
  | ternary condition whenTrue whenFalse ihc iht ihf =>
    show Accounts log (_ >>= _) state (_ ++ _)
    apply bind (fun value : Option (Value × σ) =>
      match branch? pick condition (some state) value with
      | some (true, next) => sites host scope pick whenTrue next
      | some (false, next) => sites host scope pick whenFalse next
      | none => []) (ihc state)
    · intro value next
      have hbranch : branch? pick condition (some state) (some (value, next)) =
          some (value.isTruthy, some next) := rfl
      rw [hbranch]
      cases value.isTruthy with
      | true => exact iht next
      | false => exact ihf next
    · exact unreached_nil
  | map entries ih =>
    exact bind_quiet (evalEntries_accounts ih state) fun values _ => pure' _
  | list items ih =>
    exact bind_quiet (evalItems_accounts ih state) fun values _ => pure' _
  | invoke receiver method arguments ihr iha =>
    have hitems : Unreached (sitesOfItems host scope pick arguments none) :=
      sitesOfItems_unreached fun item _ => sites_unreached host scope pick item
    have hvalues (next : σ) := evalItems_accounts iha next
    cases method with
    | none =>
      show Accounts log (_ >>= _) state (_ ++ _)
      apply bind (fun callee : Option (Value × σ) =>
        let values := (evalItems host scope arguments).arrive (callee.map Prod.snd)
        sitesOfItems host scope pick arguments (callee.map Prod.snd) ++
          [plainSite scope receiver arguments (callee.map Prod.fst) (values.map Prod.fst)])
        (ihr state)
      · intro callee next
        apply bind (fun values : Option (List Value × σ) =>
          [plainSite scope receiver arguments (some callee) (values.map Prod.fst)])
          (hvalues next)
        · intro values next'
          exact Host.accounts_callValue hlog callee (implicitThis scope) values _ next' _
        · exact unreached_cons.mpr ⟨rfl, unreached_nil⟩
      · exact unreached_append.mpr ⟨hitems, unreached_cons.mpr ⟨rfl, unreached_nil⟩⟩
    | some method =>
      show Accounts log (_ >>= _) state (_ ++ _)
      apply bind (fun value : Option (Value × σ) =>
        let member := value.bind fun (value, next) =>
          (EvalM.ofExcept (value.member method)).arrive (some next)
        let values := (evalItems host scope arguments).arrive (member.map Prod.snd)
        sitesOfItems host scope pick arguments (member.map Prod.snd) ++
          [methodSite receiver method arguments (value.map Prod.fst) (member.map Prod.fst)
            (values.map Prod.fst)])
        (ihr state)
      · intro value next
        apply bind (fun member : Option (Value × σ) =>
          let values := (evalItems host scope arguments).arrive (member.map Prod.snd)
          sitesOfItems host scope pick arguments (member.map Prod.snd) ++
            [methodSite receiver method arguments (some value) (member.map Prod.fst)
              (values.map Prod.fst)])
          (ofExcept (value.member method))
        · intro member next'
          apply bind (fun values : Option (List Value × σ) =>
            [methodSite receiver method arguments (some value) (some member)
              (values.map Prod.fst)])
            (hvalues next')
          · intro values next''
            exact Host.accounts_callMember hlog member value method values next'' _
          · exact unreached_cons.mpr ⟨rfl, unreached_nil⟩
        · exact unreached_append.mpr ⟨hitems, unreached_cons.mpr ⟨rfl, unreached_nil⟩⟩
      · exact unreached_append.mpr ⟨hitems, unreached_cons.mpr ⟨rfl, unreached_nil⟩⟩

end Expr

end Evaluation

/-- The calls that an evaluation makes are those of its sites, the nodes that call in the
order of the tree, without the branches that no condition selects. Where it succeeds,
every site has made its call, once and in order; where it fails, the calls are those of
the first sites, and no other site has made one. -/
theorem calls_in_order {host : Host σ} {log : σ → List HostCall} (hlog : host.Logs log)
    (scope : Scope) (pick : Expr → Option Bool) (e : Expr) (state : σ) :
    ((e.sites host scope pick (some state)).map Site.node).Sublist e.callNodes ∧
    (∀ value, (e.eval host scope).result state = .ok value → ∃ calls,
      (e.sites host scope pick (some state)).map Site.call? = calls.map some ∧
      log ((e.eval host scope).run.run state).2 = log state ++ calls) ∧
    ∀ error, (e.eval host scope).result state = .error error → ∃ calls rest,
      (e.sites host scope pick (some state)).map Site.call? = calls.map some ++ rest ∧
      (∀ call ∈ rest, call = none) ∧
      log ((e.eval host scope).run.run state).2 = log state ++ calls := by
  obtain ⟨calls, rest, hcalls, hsites, hrest, hdone⟩ := Expr.eval_accounts hlog scope pick e state
  refine ⟨Expr.sites_sublist host scope pick e (some state), ?_, ?_⟩
  · intro value hvalue
    obtain rfl := hdone value hvalue
    rw [List.append_nil] at hsites
    exact ⟨calls, hsites, hcalls⟩
  · intro error _
    exact ⟨calls, rest, hsites, hrest, hcalls⟩

/-- A scope with two functions. -/
def twoFunctions : Scope :=
  [⟨0, [("f", .function ⟨"f", 0⟩), ("g", .function ⟨"g", 1⟩)], false⟩]

/-- The tree of `(f(false) ? g(1) : 'a'.trim()) || [2 | g]`. -/
def choiceOfCalls : Expr :=
  .binary "||"
    (.ternary (.invoke (.id "f") none [.literal (.boolean false)])
      (.invoke (.id "g") none [.literal (.integer 1)])
      (.invoke (.literal (.string "a")) (some "trim") []))
    (.list [.binary "|" (.literal (.integer 2)) (.id "g")])

/-- The tree of `[f(null), null.x, g(1) ? f(2) : g(3)]`. -/
def failureAmongCalls : Expr :=
  .list [.invoke (.id "f") none [.literal .null], .getter (.literal .null) "x",
    .ternary (.invoke (.id "g") none [.literal (.integer 1)])
      (.invoke (.id "f") none [.literal (.integer 2)])
      (.invoke (.id "g") none [.literal (.integer 3)])]

theorem calls_in_order_sample :
    Expr.echoHost.logged.Logs Prod.snd ∧
    ((choiceOfCalls.eval Expr.echoHost.logged twoFunctions).run.run ((), [])).2.2 =
      [.function ⟨"f", 0⟩ (.scope twoFunctions) [.boolean false],
        .builtin (.string "a") "trim" [], .function ⟨"g", 1⟩ .undefined [.integer 2]] ∧
    ((failureAmongCalls.eval Expr.echoHost.logged twoFunctions).run.run ((), [])).2.2 =
      [.function ⟨"f", 0⟩ (.scope twoFunctions) [.null]] := by
  have hlog := Host.logged_logs Expr.echoHost
  refine ⟨hlog, ?_, ?_⟩
  · obtain ⟨-, hdone, -⟩ :=
      calls_in_order hlog twoFunctions (fun _ => none) choiceOfCalls ((), [])
    obtain ⟨calls, hsites, hcalls⟩ := hdone _ rfl
    have hexpected : calls.map some =
        [.function ⟨"f", 0⟩ (.scope twoFunctions) [.boolean false],
          .builtin (.string "a") "trim" [], .function ⟨"g", 1⟩ .undefined [.integer 2]].map some :=
      hsites.symm
    rw [hcalls, (List.map_inj_right fun _ _ => Option.some.inj).mp hexpected]
    rfl
  · obtain ⟨-, -, hfailed⟩ :=
      calls_in_order hlog twoFunctions (fun _ => some true) failureAmongCalls ((), [])
    obtain ⟨calls, rest, hsites, hrest, hcalls⟩ := hfailed _ rfl
    change [some (HostCall.function ⟨"f", 0⟩ (.scope twoFunctions) [.null]), none, none] = _
      at hsites
    rw [hcalls]
    rcases calls with _ | ⟨call, _ | ⟨second, others⟩⟩
    · have hfirst := hrest _ (hsites ▸ List.mem_cons_self)
      cases hfirst
    · cases hsites
      rfl
    · cases hsites

end BindingLang
