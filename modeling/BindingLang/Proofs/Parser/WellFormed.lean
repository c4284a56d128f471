import BindingLang.Proofs.Binary64.Numeral
import BindingLang.Proofs.Expr.Print
import BindingLang.Proofs.Parser.Ending
/-!
  Well-formed trees: what every node of a parsed tree is like.

  The operators of a tree are of those that may stand where they do, its names
  can be written, the keys of its maps are distinct and its numbers are numbers.
  The node after a dot is taken apart, so names and arguments move from one kind
  of node to another; they are well formed where they come from.

  What is proved:
    1. `wellFormed` — a run that starts with well-formed trees comes to
       well-formed trees.
    2. `wellFormed_of_parse` — all nodes of a parsed tree are well formed.
-/

namespace BindingLang

namespace Expr

/-- Whether the node is as the grammar makes it: its operator may stand where it
does, its name is one and no constant, its keys are distinct, and its number is
one. -/
def WellFormed : Expr → Prop
  | .empty => True
  | .literal (.float x) => x.isNaN = false
  | .literal _ => True
  | .id name => IsName name
  | .unary operator _ => operator ∈ Symbol.unaryOperators
  | .binary operator _ _ => operator ∈ Symbol.binaryOperators
  | .getter _ name => IsName name
  | .invoke _ (some method) _ => IsName method
  | .invoke _ none _ => True
  | .index _ _ => True
  | .ternary _ _ _ => True
  | .map entries => (entries.map Prod.fst).Nodup
  | .list _ => True

end Expr

/-- Whether the name after a dot is well formed, and the arguments behind it. -/
def Member.WellFormed : Member Expr → Prop
  | .name text => Expr.IsName text
  | .call method arguments =>
    Expr.IsName method ∧ ∀ argument ∈ arguments, argument.Every Expr.WellFormed

namespace Parser

open BindingLang.Expr

section Parts

variable {t : Token} {value : Literal}

theorem wellFormed_ofDigits? {sign digits : String}
    (h : Literal.ofDigits? sign digits = some value) : (literal value).WellFormed := by
  cases value with
  | float x => exact Literal.isNaN_of_ofDigits? h
  | _ => trivial

theorem wellFormed_ofDecimal? {sign decimal : String}
    (h : Literal.ofDecimal? sign decimal = some value) : (literal value).WellFormed := by
  cases value with
  | float x => exact Literal.isNaN_of_ofDecimal? h
  | _ => trivial

theorem wellFormed_constant (h : Constant [t] value) : (literal value).WellFormed := by
  cases h with
  | word kind reads =>
    unfold wordLiteral? at reads
    split at reads
    · cases reads
      trivial
    split at reads
    · cases reads
      trivial
    split at reads <;> cases reads
    trivial
  | string kind => trivial
  | integer kind reads => exact wellFormed_ofDigits? reads
  | decimal kind reads => exact wellFormed_ofDecimal? reads

theorem wellFormed_signedNumber? {sign number : Token}
    (h : signedNumber? sign number = some value) : (literal value).WellFormed := by
  unfold signedNumber? at h
  split at h
  · exact wellFormed_ofDigits? h
  · exact wellFormed_ofDecimal? h

/-- An identifier that stands for no constant is a name. -/
theorem isName_of_identifier (hv : t.Valid) (hk : t.kind = .identifier)
    (noWord : wordLiteral? t.value = none) : IsName t.value := by
  have hs := hv.spelling
  rw [hk] at hs
  refine ⟨hs.1, ?_⟩
  unfold wordLiteral? at noWord
  split at noWord
  · cases noWord
  split at noWord
  · cases noWord
  split at noWord
  · cases noWord
  · exact ⟨by assumption, by assumption, by assumption⟩

theorem isName_this : IsName "this" := by decide

/-- What is taken from the node after a dot was well formed in it. -/
theorem wellFormed_of_member {node : Expr} {m : Member Expr} (h : Expr.member node = .ok m)
    (hnode : node.Every WellFormed) : m.WellFormed := by
  unfold Expr.member at h
  split at h
  · cases h
    exact hnode.self
  · cases h
    obtain ⟨-, hreceiver, harguments⟩ := every_invoke.mp hnode
    exact ⟨hreceiver.self, harguments⟩
  · cases h

end Parts

/-- Whether the tree that a goal starts with is well formed. -/
def Goal.WellFormed : Goal Expr → Prop
  | .climb left _ => left.Every Expr.WellFormed
  | .tails _ right => right.Every Expr.WellFormed
  | _ => True

/-- Whether the trees that a run comes to are well formed. -/
def Yield.WellFormed : Yield Expr → Prop
  | .node e => e.Every Expr.WellFormed
  | .items es => ∀ e ∈ es, e.Every Expr.WellFormed
  | .entries es => ∀ entry ∈ es, entry.2.Every Expr.WellFormed

variable {goal : Goal Expr} {result : Yield Expr} {ts us : List Token}

/-- A run makes well-formed trees of valid tokens and a well-formed tree to start
with. -/
theorem wellFormed (h : Run builder goal ts result us) (hv : AllValid ts)
    (hg : goal.WellFormed) : result.WellFormed := by
  -- What a run leaves of the tokens is valid too, for the runs that follow it.
  induction h with
  | empty => exact every_empty.mpr trivial
  | stop | looser => exact hg
  | whole first tail ihf iht => exact iht (hv.of_suffix first.suffix) (ihf hv trivial)
  | call opens list builds tail ihl iht =>
    cases builds
    have hlist := ihl hv.tail trivial
    exact iht (hv.tail.of_suffix list.suffix) (every_invoke.mpr ⟨trivial, hg, hlist⟩)
  | index opens key closes tail ihk iht =>
    have hkey := ihk hv.tail trivial
    exact iht (hv.tail.of_suffix key.suffix).tail (every_index.mpr ⟨trivial, hg, hkey⟩)
  | getter kind operand splits tail iho iht =>
    have hname := wellFormed_of_member splits (iho hv.tail trivial)
    exact iht (hv.tail.of_suffix operand.suffix) (every_getter.mpr ⟨hname, hg⟩)
  | method kind operand splits builds tail iho iht =>
    cases builds
    obtain ⟨hname, harguments⟩ := wellFormed_of_member splits (iho hv.tail trivial)
    exact iht (hv.tail.of_suffix operand.suffix) (every_invoke.mpr ⟨hname, hg, harguments⟩)
  | ternary kind value binds first colons second tail ihf ihs iht =>
    have hv' := (hv.tail.of_suffix first.suffix).tail
    have hfirst := ihf hv.tail trivial
    have hsecond := ihs hv' trivial
    exact iht (hv'.of_suffix second.suffix) (every_ternary.mpr ⟨trivial, hg, hfirst, hsecond⟩)
  | binary kind value binds known first second tail ihf ihs iht =>
    have hv' := hv.tail.of_suffix first.suffix
    have hright := ihs hv' (ihf hv.tail trivial)
    exact iht (hv'.of_suffix second.suffix)
      (every_binary.mpr ⟨List.contains_iff_mem.mp known, hg, hright⟩)
  | stuck tighter step ih => exact ih hv hg
  | tighter tighter step moves tail ihs iht =>
    exact iht (hv.of_suffix step.suffix) (ihs hv hg)
  | atom kind primary ih => exact ih hv trivial
  | signed kind sign' number' reads =>
    exact every_literal.mpr (wellFormed_signedNumber? reads)
  | prefixed kind unsigned known primary tail ihp iht =>
    have hoperand := ihp hv.tail trivial
    exact every_unary.mpr
      ⟨List.contains_iff_mem.mp known, iht (hv.tail.of_suffix primary.suffix) hoperand⟩
  | this kind value => exact every_id.mpr (value ▸ isName_this)
  | constant reads => exact every_literal.mpr (wellFormed_constant reads)
  | name kind noWord ends =>
    exact every_id.mpr (isName_of_identifier (hv _ List.mem_cons_self) kind noWord)
  | nameCall kind noWord opens list builds ih =>
    cases builds
    have hname := isName_of_identifier (hv _ List.mem_cons_self) kind noWord
    exact every_invoke.mpr ⟨trivial, every_id.mpr hname, ih hv.tail.tail trivial⟩
  | paren opens run closes ih => exact ih hv.tail trivial
  | map opens list ih =>
    have hentries := ih hv.tail trivial
    exact every_map.mpr ⟨nodup_mergeEntries _, fun entry he =>
      hentries entry ((mergeEntries_subperm _).subset he)⟩
  | list opens list ih => exact every_list.mpr ⟨trivial, ih hv.tail trivial⟩
  | itemsNone closes | entriesNone closes => exact nofun
  | itemsLast opens run closes ih => exact List.forall_mem_singleton.mpr (ih hv trivial)
  | itemsMore opens run commas more ihr ihm =>
    exact List.forall_mem_cons.mpr
      ⟨ihr hv trivial, ihm (hv.of_suffix run.suffix).tail trivial⟩
  | entriesLast kind colons run closes ih =>
    exact List.forall_mem_singleton.mpr (ih hv.tail.tail trivial)
  | entriesMore kind colons run commas more ihr ihm =>
    exact List.forall_mem_cons.mpr
      ⟨ihr hv.tail.tail trivial, ihm (hv.tail.tail.of_suffix run.suffix).tail trivial⟩

end Parser

namespace Expr

/-- All nodes of a parsed tree are well formed. -/
theorem wellFormed_of_parse {source : String} {e : Expr} (h : parse source = .ok e) :
    e.Every WellFormed := by
  obtain ⟨-, run⟩ := parse_eq_ok_iff.mp h
  exact Parser.wellFormed run (fun t ht => valid_of_mem_stream ht) trivial

end Expr

end BindingLang
