import BindingLang.Proofs.Expr.NameOrder
import BindingLang.Proofs.Parser.Conservation
import Mathlib
/-!
  Names in the order of the source.

  A parser meets the names of a source from left to right and keeps them so,
  with one exception: the value of a key that is repeated in a map takes the
  place of the earlier value, before all that was read between the two. A run
  that keeps all entries goes through the same tokens in the same way, and its
  tree, merged, is that of the parser.

  What is proved:
    1. `merged_run`, `exists_unmerged_run` — a run that keeps all entries is one
       of the parser, once its trees are merged; and every run of the parser
       comes from one that keeps them.
    2. `names_in_source_order` — the names of the tree with all entries are a
       sublist of the words of the source; those of the tree itself are as well
       if no map repeats a key, and otherwise up to their order.
    3. `names_out_of_order_of_repeated_key` — with a repeated key they may come
       in another order.
-/

namespace BindingLang

/-- The strict splitting, too, is the same before and after merging. -/
theorem Expr.strictMember_merged (e : Expr) :
    strictMember e.merged = (strictMember e).map (Member.map merged) := by
  cases e with
  | invoke receiver method arguments =>
    cases receiver with
    | id name =>
      rw [merged, mergedItems_eq]
      cases method with
      | none => rfl
      | some method => rfl
    | _ => rfl
  | _ => rfl

namespace Parser

open BindingLang.Expr Token

/-- The goal with the tree that it starts with merged. -/
def Goal.merged : Goal Expr → Goal Expr
  | .expression => .expression
  | .climb left minimum => .climb left.merged minimum
  | .tails operator right => .tails operator right.merged
  | .unary => .unary
  | .primary => .primary
  | .items closer => .items closer
  | .entries => .entries

/-- The result with its trees merged. -/
def Yield.merged : Yield Expr → Yield Expr
  | .node e => .node e.merged
  | .items es => .items (mergedItems es)
  | .entries es => .entries (mergedEntries es)

/-- Whether the first goal is the second as it is written, its operand before
merging. -/
inductive Goal.Merges : Goal Expr → Goal Expr → Prop where
  | expression : Merges .expression .expression
  | climb (left : Expr) (minimum : Nat) : Merges (.climb left minimum) (.climb left.merged minimum)
  | tails (operator : Token) (right : Expr) :
    Merges (.tails operator right) (.tails operator right.merged)
  | unary : Merges .unary .unary
  | primary : Merges .primary .primary
  | items (closer : String) : Merges (.items closer) (.items closer)
  | entries : Merges .entries .entries

/-- Whether the first result is the second as it is written, before merging. -/
inductive Yield.Merges : Yield Expr → Yield Expr → Prop where
  | node (e : Expr) : Merges (.node e) (.node e.merged)
  | items (es : List Expr) : Merges (.items es) (.items (mergedItems es))
  | entries (es : List (String × Expr)) : Merges (.entries es) (.entries (mergedEntries es))

/-! ## Splitting before and after merging -/

section Splits

variable {split : Expr → Except String (Member Expr)}
  (hsplit : ∀ e : Expr, split e.merged = (split e).map (Member.map merged))
  {e : Expr} {name : String}

include hsplit

/-- A member's name is split off before merging as after it. -/
theorem split_merged_name : split e.merged = .ok (.name name) ↔ split e = .ok (.name name) := by
  rw [hsplit]
  rcases split e with kind | ⟨word⟩ | ⟨method, arguments⟩
  · exact iff_of_false nofun nofun
  · exact Iff.rfl
  · exact iff_of_false nofun nofun

/-- So is the call of a method. -/
theorem split_merged_call {arguments : List Expr} :
    split e.merged = .ok (.call name arguments) ↔
      ∃ items, split e = .ok (.call name items) ∧ arguments = mergedItems items := by
  rw [hsplit]
  rcases split e with kind | ⟨word⟩ | ⟨method, items⟩
  · exact iff_of_false nofun nofun
  · exact iff_of_false nofun nofun
  · constructor
    · rintro ⟨⟩
      exact ⟨items, rfl, (mergedItems_eq items).symm⟩
    · rintro ⟨_, ⟨⟩, rfl⟩
      rw [mergedItems_eq]
      rfl

/-! ## Runs that keep all entries -/

/-- Once its trees are merged, a run that keeps all entries is a run of the parser. -/
theorem merged_run {goal : Goal Expr} {ts us : List Token} {result : Yield Expr}
    (h : RunWith allEntries (builderWith split) goal ts result us) :
    Run (builderWith split) goal.merged ts result.merged us := by
  induction h with
  | empty => exact .empty
  | whole _ _ first tail => exact .whole first tail
  | stop ends => exact .stop ends
  | call opens _ builds _ list tail =>
    cases builds
    exact .call opens list rfl tail
  | index opens _ closes _ key tail => exact .index opens key closes tail
  | getter kind _ splits _ operand tail =>
    exact .getter kind operand ((split_merged_name hsplit).mpr splits) tail
  | method kind _ splits builds _ operand tail =>
    cases builds
    exact .method kind operand ((split_merged_call hsplit).mpr ⟨_, splits, rfl⟩) rfl tail
  | ternary kind value binds _ colons _ _ first second tail =>
    exact .ternary kind value binds first colons second tail
  | binary kind value binds known _ _ _ first second tail =>
    exact .binary kind value binds known first second tail
  | looser ends => exact .looser ends
  | stuck tighter _ step => exact .stuck tighter step
  | tighter tighter _ moves _ step tail => exact .tighter tighter step moves tail
  | atom kind _ primary => exact .atom kind primary
  | signed kind sign number reads => exact .signed kind sign number reads
  | prefixed kind unsigned known _ _ primary tail =>
    exact .prefixed kind unsigned known primary tail
  | this kind value => exact .this kind value
  | constant reads => exact .constant reads
  | name kind noWord ends => exact .name kind noWord ends
  | nameCall kind noWord opens _ builds list =>
    cases builds
    exact .nameCall kind noWord opens list rfl
  | paren opens _ closes run => exact .paren opens run closes
  -- Here alone the two runs differ: in one of them the entries are merged.
  | map opens _ list => exact .map opens list
  | list opens _ list => exact .list opens list
  | itemsNone closes => exact .itemsNone closes
  | itemsLast opens _ closes run => exact .itemsLast opens run closes
  | itemsMore opens _ commas _ run rest => exact .itemsMore opens run commas rest
  | entriesNone closes => exact .entriesNone closes
  | entriesLast kind colons _ closes run => exact .entriesLast kind colons run closes
  | entriesMore kind colons _ commas _ run rest => exact .entriesMore kind colons run commas rest

/-- Every run of the parser comes from one that keeps all entries. -/
theorem exists_unmerged_run {front goal : Goal Expr} {ts us : List Token} {result : Yield Expr}
    (h : Run (builderWith split) goal ts result us) (hfront : front.Merges goal) :
    ∃ whole : Yield Expr, RunWith allEntries (builderWith split) front ts whole us ∧
      whole.Merges result := by
  -- The parts of a node as they are written make up the node as it is written.
  induction h generalizing front with
  | empty =>
    cases hfront
    exact ⟨_, .empty, .node .empty⟩
  | whole first tail ihf iht =>
    cases hfront
    obtain ⟨_, hfirst, ⟨operand⟩⟩ := ihf .unary
    obtain ⟨_, htail, ⟨node⟩⟩ := iht (.climb operand _)
    exact ⟨_, .whole hfirst htail, .node node⟩
  | stop ends =>
    cases hfront
    exact ⟨_, .stop ends, .node _⟩
  | call opens list builds tail ihl iht =>
    cases builds
    cases hfront with
    | climb left minimum =>
      obtain ⟨_, hlist, _ | ⟨arguments⟩⟩ := ihl (.items _)
      obtain ⟨_, htail, ⟨node⟩⟩ := iht (.climb (.invoke left none arguments) _)
      exact ⟨_, .call opens hlist rfl htail, .node node⟩
  | index opens key closes tail ihk iht =>
    cases hfront with
    | climb left minimum =>
      obtain ⟨_, hkey, ⟨argument⟩⟩ := ihk .expression
      obtain ⟨_, htail, ⟨node⟩⟩ := iht (.climb (.index left argument) _)
      exact ⟨_, .index opens hkey closes htail, .node node⟩
  | getter kind operand splits tail iho iht =>
    cases hfront with
    | climb left minimum =>
      obtain ⟨_, hoperand, ⟨right⟩⟩ := iho .unary
      obtain ⟨_, htail, ⟨node⟩⟩ := iht (.climb (.getter left _) _)
      exact ⟨_, .getter kind hoperand ((split_merged_name hsplit).mp splits) htail, .node node⟩
  | method kind operand splits builds tail iho iht =>
    cases builds
    cases hfront with
    | climb left minimum =>
      obtain ⟨_, hoperand, ⟨right⟩⟩ := iho .unary
      obtain ⟨arguments, hcall, rfl⟩ := (split_merged_call hsplit).mp splits
      obtain ⟨_, htail, ⟨node⟩⟩ := iht (.climb (.invoke left (some _) arguments) _)
      exact ⟨_, .method kind hoperand hcall rfl htail, .node node⟩
  | ternary kind value binds first colons second tail ihf ihs iht =>
    cases hfront with
    | climb left minimum =>
      obtain ⟨_, hfirst, ⟨whenTrue⟩⟩ := ihf .expression
      obtain ⟨_, hsecond, ⟨whenFalse⟩⟩ := ihs .expression
      obtain ⟨_, htail, ⟨node⟩⟩ := iht (.climb (.ternary left whenTrue whenFalse) _)
      exact ⟨_, .ternary kind value binds hfirst colons hsecond htail, .node node⟩
  | binary kind value binds known first second tail ihf ihs iht =>
    cases hfront with
    | climb left minimum =>
      obtain ⟨_, hfirst, ⟨operand⟩⟩ := ihf .unary
      obtain ⟨_, hsecond, ⟨right⟩⟩ := ihs (.tails _ operand)
      obtain ⟨_, htail, ⟨node⟩⟩ := iht (.climb (.binary _ left right) _)
      exact ⟨_, .binary kind value binds known hfirst hsecond htail, .node node⟩
  | looser ends =>
    cases hfront
    exact ⟨_, .looser ends, .node _⟩
  | stuck tighter step ih =>
    cases hfront with
    | tails operator right =>
      obtain ⟨_, hstep, ⟨node⟩⟩ := ih (.climb right _)
      exact ⟨_, .stuck tighter hstep, .node node⟩
  | tighter tighter step moves tail ihs iht =>
    cases hfront with
    | tails operator right =>
      obtain ⟨_, hstep, ⟨extended⟩⟩ := ihs (.climb right _)
      obtain ⟨_, htail, ⟨node⟩⟩ := iht (.tails _ extended)
      exact ⟨_, .tighter tighter hstep moves htail, .node node⟩
  | atom kind primary ih =>
    cases hfront
    obtain ⟨_, hprimary, ⟨node⟩⟩ := ih .primary
    exact ⟨_, .atom kind hprimary, .node node⟩
  | signed kind sign' number' reads =>
    cases hfront
    exact ⟨_, .signed kind sign' number' reads, .node (.literal _)⟩
  | prefixed kind unsigned known primary tail ihp iht =>
    cases hfront
    obtain ⟨_, hprimary, ⟨operand⟩⟩ := ihp .primary
    obtain ⟨_, htail, ⟨node⟩⟩ := iht (.climb operand _)
    exact ⟨_, .prefixed kind unsigned known hprimary htail, .node (.unary _ node)⟩
  | this kind value =>
    cases hfront
    exact ⟨_, .this kind value, .node (.id _)⟩
  | constant reads =>
    cases hfront
    exact ⟨_, .constant reads, .node (.literal _)⟩
  | name kind noWord ends =>
    cases hfront
    exact ⟨_, .name kind noWord ends, .node (.id _)⟩
  | nameCall kind noWord opens list builds ih =>
    cases builds
    cases hfront
    obtain ⟨_, hlist, _ | ⟨arguments⟩⟩ := ih (.items _)
    exact ⟨_, .nameCall kind noWord opens hlist rfl, .node (.invoke (.id _) none arguments)⟩
  | paren opens run closes ih =>
    cases hfront
    obtain ⟨_, hrun, ⟨inner⟩⟩ := ih .expression
    exact ⟨_, .paren opens hrun closes, .node inner⟩
  | map opens list ih =>
    cases hfront
    obtain ⟨_, hlist, _ | _ | ⟨entries⟩⟩ := ih .entries
    exact ⟨_, .map opens hlist, .node (.map entries)⟩
  | list opens list ih =>
    cases hfront
    obtain ⟨_, hlist, _ | ⟨items⟩⟩ := ih (.items _)
    exact ⟨_, .list opens hlist, .node (.list items)⟩
  | itemsNone closes =>
    cases hfront
    exact ⟨_, .itemsNone closes, .items []⟩
  | itemsLast opens run closes ih =>
    cases hfront
    obtain ⟨_, hrun, ⟨item⟩⟩ := ih .expression
    exact ⟨_, .itemsLast opens hrun closes, .items [item]⟩
  | itemsMore opens run commas rest ihr ihm =>
    cases hfront
    obtain ⟨_, hrun, ⟨item⟩⟩ := ihr .expression
    obtain ⟨_, hmore, _ | ⟨items⟩⟩ := ihm (.items _)
    exact ⟨_, .itemsMore opens hrun commas hmore, .items (item :: items)⟩
  | entriesNone closes =>
    cases hfront
    exact ⟨_, .entriesNone closes, .entries []⟩
  | entriesLast kind colons run closes ih =>
    cases hfront
    obtain ⟨_, hrun, ⟨node⟩⟩ := ih .expression
    exact ⟨_, .entriesLast kind colons hrun closes, .entries [(_, node)]⟩
  | entriesMore kind colons run commas rest ihr ihm =>
    cases hfront
    obtain ⟨_, hrun, ⟨node⟩⟩ := ihr .expression
    obtain ⟨_, hmore, _ | _ | ⟨entries⟩⟩ := ihm .entries
    exact ⟨_, .entriesMore kind colons hrun commas hmore, .entries ((_, node) :: entries)⟩

/-- A tree that is parsed is the merged tree of one with all entries. -/
theorem exists_unmerged {ts us : List Token}
    (h : Run (builderWith split) .expression ts (.node e) us) :
    ∃ whole : Expr, RunWith allEntries (builderWith split) .expression ts (.node whole) us ∧
      whole.merged = e := by
  obtain ⟨_, hrun, hmerges⟩ := exists_unmerged_run hsplit h .expression
  cases hmerges with
  | node whole => exact ⟨whole, hrun, rfl⟩

end Splits

end Parser

namespace Expr

/-- Whether the tree is that of the source with all entries of its maps, also those with one
key: what the parser makes of the source but for merging them. -/
def Unmerged (source : String) (whole : Expr) : Prop :=
  Parser.RunWith Parser.allEntries builder .expression (Token.Stream.ofText source).tokens
    (.node whole) []

/-- The names of a source are listed in its order, but for repeated keys. The source has a
tree with all entries of its maps, which has all words of the source if every node after a
dot is a name or a bare call; and merged, every such tree is the one that is parsed, while
its words, and its names among them, are a sublist of those of the source. So the names of
the parsed tree are words of the source, none of them more often than it is written; and
they are in the order of the source where no map repeats a key. -/
theorem names_in_source_order {source : String} {e : Expr} (h : parse source = .ok e) :
    (∃ whole : Expr, Unmerged source whole ∧
      (BindingLang.parse strictBuilder source = .ok e →
        whole.words = Token.words (Token.Stream.ofText source).tokens)) ∧
    (∀ whole : Expr, Unmerged source whole → whole.merged = e ∧
      whole.words.Sublist (Token.words (Token.Stream.ofText source).tokens) ∧
      (whole.namesAfter []).Sublist (Token.words (Token.Stream.ofText source).tokens)) ∧
    (e.namesAfter []).Subperm (Token.words (Token.Stream.ofText source).tokens) ∧
    (distinctKeys [] (Token.Stream.ofText source).tokens = true →
      (e.namesAfter []).Sublist (Token.words (Token.Stream.ofText source).tokens)) := by
  obtain ⟨hends, run⟩ := parse_eq_ok_iff.mp h
  have hmerged : ∀ whole : Expr, Unmerged source whole → whole.merged = e := by
    intro whole hwhole
    have hparse : parse source = .ok whole.merged :=
      parse_eq_ok_iff.mpr ⟨hends, Parser.merged_run member_merged hwhole⟩
    exact Except.ok.inj (hparse.symm.trans h)
  have hwords : ∀ whole : Expr, Unmerged source whole →
      whole.words.Sublist (Token.words (Token.Stream.ofText source).tokens) := by
    intro whole hwhole
    have hsublist := Parser.words_sublist_of_run hwhole
    simpa only [Parser.Goal.words, Parser.Yield.words, Token.words_nil, List.append_nil,
      List.nil_append] using hsublist
  have hnames : ∀ whole : Expr, Unmerged source whole →
      whole.names.Sublist (Token.words (Token.Stream.ofText source).tokens) :=
    fun whole hwhole => whole.names_sublist_words.trans (hwords whole hwhole)
  obtain ⟨whole, hwhole, rfl⟩ := Parser.exists_unmerged member_merged run
  simp only [namesAfter, List.nil_append]
  refine ⟨?_, fun other hother => ⟨hmerged other hother, hwords other hother, hnames other hother⟩,
    whole.names_merged_subperm.trans (hnames whole hwhole).subperm, fun hkeys => ?_⟩
  · by_cases hstrict : BindingLang.parse strictBuilder source = .ok whole.merged
    · -- A tree of the strict builder is one of the plain builder that lost no word.
      obtain ⟨-, srun⟩ := parse_eq_ok_iff.mp hstrict
      obtain ⟨all, hall, -⟩ := Parser.exists_unmerged strictMember_merged srun
      have hequal := Parser.conserved conserves_eq Parser.words_eq_of_strictMember hall
      refine ⟨all, hall.of_split Parser.member_of_strictMember, fun _ => ?_⟩
      simpa only [Parser.Goal.words, Parser.Yield.words, Token.words_nil, List.append_nil,
        List.nil_append] using hequal
    · exact ⟨whole, hwhole, fun hparse => absurd hparse hstrict⟩
  · exact hnames whole.merged
      (Parser.unrepeated (fun _ => Parser.mergeEntries_of_nodup) run [] settled_nil trivial
        hkeys).run

/-- Members of `this`, calls and keys leave the names in the order of the source. A value that
is replaced is still read in the tree with all entries. -/
theorem names_in_source_order_sample :
    parse "\x7b'a': x, 'b': this.y(z)\x7d" =
        .ok (.map [("a", .id "x"), ("b", .invoke (.id "this") (some "y") [.id "z"])]) ∧
      distinctKeys [] (Token.Stream.ofText "\x7b'a': x, 'b': this.y(z)\x7d").tokens = true ∧
      ["x", "y", "z"].Sublist
        (Token.words (Token.Stream.ofText "\x7b'a': x, 'b': this.y(z)\x7d").tokens) ∧
      parse "\x7b'a': x, 'b': y, 'a': z\x7d" = .ok (.map [("a", .id "z"), ("b", .id "y")]) ∧
      ∃ whole : Expr, Unmerged "\x7b'a': x, 'b': y, 'a': z\x7d" whole ∧
        whole.merged = .map [("a", .id "z"), ("b", .id "y")] ∧
        whole.words = ["a", "x", "b", "y", "a", "z"] := by
  have hparse : parse "\x7b'a': x, 'b': this.y(z)\x7d" =
      .ok (.map [("a", .id "x"), ("b", .invoke (.id "this") (some "y") [.id "z"])]) := by cbv
  have hkeys : distinctKeys [] (Token.Stream.ofText "\x7b'a': x, 'b': this.y(z)\x7d").tokens =
      true := by cbv
  have hrepeated : parse "\x7b'a': x, 'b': y, 'a': z\x7d" =
      .ok (.map [("a", .id "z"), ("b", .id "y")]) := by cbv
  have hstrict : BindingLang.parse strictBuilder "\x7b'a': x, 'b': y, 'a': z\x7d" =
      .ok (.map [("a", .id "z"), ("b", .id "y")]) := by cbv
  have htokens : Token.words (Token.Stream.ofText "\x7b'a': x, 'b': y, 'a': z\x7d").tokens =
      ["a", "x", "b", "y", "a", "z"] := by cbv
  obtain ⟨⟨whole, hwhole, hwords⟩, hmerged, -⟩ := names_in_source_order hrepeated
  exact ⟨hparse, hkeys, (names_in_source_order hparse).2.2.2 hkeys, hrepeated, whole, hwhole,
    (hmerged whole hwhole).1, (hwords hstrict).trans htokens⟩

/-- The second value of the key `'a'` stands before that of `'b'`, so that `z` is
listed before `y`, which comes before it in the source. -/
theorem names_out_of_order_of_repeated_key :
    parse "\x7b'a': x, 'b': y, 'a': z\x7d" = .ok (.map [("a", .id "z"), ("b", .id "y")]) ∧
      namesAfter (.map [("a", .id "z"), ("b", .id "y")]) [] = ["z", "y"] ∧
      Token.words (Token.Stream.ofText "\x7b'a': x, 'b': y, 'a': z\x7d").tokens =
        ["a", "x", "b", "y", "a", "z"] ∧
      ¬ ["z", "y"].Sublist ["a", "x", "b", "y", "a", "z"] :=
  ⟨by cbv, rfl, by cbv, by decide⟩

end Expr

end BindingLang
