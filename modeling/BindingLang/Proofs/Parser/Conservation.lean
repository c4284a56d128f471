import BindingLang.Proofs.Expr.Entries
import BindingLang.Proofs.Expr.Words
import BindingLang.Proofs.Parser.Adequacy
import BindingLang.Proofs.Token.Spelling
/-!
  Conservation: what becomes of the words of a source in its tree.

  A tree has its words from the tokens, in their order; but the node after a dot
  is taken apart, and of the call of a method only the receiver and the
  arguments are used. `strictBuilder` takes apart what a builder is meant to
  take apart, names and bare calls, and refuses every other node.

  What is proved:
    1. `unrepeated` — where no map repeats a key, it makes no difference to a run
       what becomes of repeated ones.
    2. `conserved` — along a run that keeps all entries, the words of the result
       relate to the words taken as the words of a split node relate to those of
       the node.
    3. `strict_of_length` — such a run that loses no word is a run of the strict
       builder.
    4. `words_eq_iff_strict` — a tree has the words of its source just if the
       strict builder makes it too.
-/

namespace BindingLang

namespace Expr

/-- Splits the node after a dot: only the call of a name itself, and of no
method of it, is the call of a method. -/
def strictMember : Expr → Except String (Member Expr)
  | .id name => .ok (.name name)
  | .invoke (.id name) none arguments => .ok (.call name arguments)
  | other => .error other.typeName

/-- The plain builder with `split` for the node after a dot. -/
def builderWith (split : Expr → Except String (Member Expr)) : Builder Expr :=
  { builder with member := split }

/-- Builds plain trees, and refuses to call a method through another. -/
def strictBuilder : Builder Expr := builderWith strictMember

end Expr

/-- A relation of word lists that holds of equal lists and goes through
composition and concatenation. -/
structure Conserves (R : List String → List String → Prop) : Prop where
  refl : ∀ ws, R ws ws
  trans : ∀ {us vs ws}, R us vs → R vs ws → R us ws
  append : ∀ {us vs us' vs'}, R us vs → R us' vs' → R (us ++ us') (vs ++ vs')

theorem Conserves.left {R : List String → List String → Prop} (hR : Conserves R)
    (ws : List String) {us vs : List String} (h : R us vs) : R (ws ++ us) (ws ++ vs) :=
  hR.append (hR.refl ws) h

theorem conserves_eq : Conserves Eq where
  refl _ := rfl
  trans := Eq.trans
  append := by
    rintro us vs us' vs' rfl rfl
    rfl

theorem conserves_sublist : Conserves List.Sublist where
  refl := List.Sublist.refl
  trans := List.Sublist.trans
  append := List.Sublist.append

namespace Parser

open BindingLang.Expr Token

/-- The words of what a goal starts with. -/
def Goal.words : Goal Expr → List String
  | .climb left _ => left.words
  | .tails _ right => right.words
  | _ => []

/-- The words of what a run comes to. -/
def Yield.words : Yield Expr → List String
  | .node e => e.words
  | .items es => wordsOfItems es
  | .entries es => wordsOfEntries es

/-- The brackets that are open before a goal, where `frames` were open before
its opening bracket. -/
def Goal.frames (keys : List String) (frames : List Frame) : Goal Expr → List Frame
  | .expression => frames
  | .climb _ _ => frames
  | .tails _ _ => frames
  | .unary => frames
  | .primary => frames
  | .items _ => .other :: frames
  | .entries => .brace keys true :: frames

/-- Whether the keys of entries are distinct, and none of `keys`. -/
def Yield.Fresh (keys : List String) : Yield Expr → Prop
  | .entries es => (es.map Prod.fst).Nodup ∧ ∀ key ∈ es.map Prod.fst, key ∉ keys
  | _ => True

/-- What a run leaves behind where no key is repeated: none in the rest, distinct keys in
the result, and a run that does otherwise with repeated ones. -/
structure Unrepeated (merge : List (String × Expr) → List (String × Expr)) (B : Builder Expr)
    (keys : List String) (frames : List Frame) (goal : Goal Expr) (ts : List Token)
    (result : Yield Expr) (us : List Token) : Prop where
  rest : distinctKeys frames us = true
  fresh : result.Fresh keys
  run : RunWith merge B goal ts result us

/-- A token that stands for a constant has the constant's words. -/
theorem words_of_constant {t : Token} {value : Literal} (h : Constant [t] value) :
    value.words = t.word?.toList := by
  cases h with
  | word kind reads => simp [words_of_wordLiteral? reads, word?, kind]
  | string kind => simp [Literal.words, word?, kind]
  | integer kind reads => simp [words_of_ofDigits? reads, word?, kind]
  | decimal kind reads => simp [words_of_ofDecimal? reads, word?, kind]

theorem words_cons_of_constant {t : Token} {ts : List Token} {value : Literal}
    (h : Constant [t] value) : words (t :: ts) = value.words ++ words ts := by
  rw [words_of_constant h, Token.words, List.filterMap_cons]
  cases t.word? with
  | none => rfl
  | some word => rfl

theorem words_of_signedNumber? {sign number : Token} {value : Literal}
    (h : signedNumber? sign number = some value) : value.words = [] := by
  unfold signedNumber? at h
  split at h
  · exact words_of_ofDigits? h
  · exact words_of_ofDecimal? h

theorem word?_of_isNumber {t : Token} (h : IsNumber t) : t.word? = none := by
  rcases h with h | h
  · exact word?_of_kind h
  · exact word?_of_kind h

theorem plain_of_constant {t : Token} {value : Literal} (h : Constant [t] value) :
    t.kind ≠ .grouper ∧ t.kind ≠ .comma := by
  cases h with
  | word kind | string kind | integer kind | decimal kind => simp [kind]

variable {merge merge' : List (String × Expr) → List (String × Expr)} {B : Builder Expr}
  {goal : Goal Expr} {ts us : List Token} {result : Yield Expr}

/-! ## Where no key is repeated -/

/-- Where no key is repeated, it makes no difference what becomes of those that are. -/
theorem unrepeated
    (hmerge : ∀ entries : List (String × Expr), (entries.map Prod.fst).Nodup →
      merge entries = merge' entries)
    (h : RunWith merge B goal ts result us) (keys : List String) {frames : List Frame}
    (hf : Settled frames) (hc : goal.Closes)
    (hd : distinctKeys (goal.frames keys frames) ts = true) :
    Unrepeated merge' B keys frames goal ts result us := by
  -- Each part of a run starts where the one before it left the brackets.
  induction h generalizing keys frames with
  | empty => exact ⟨hd, trivial, .empty⟩
  | stop ends => exact ⟨hd, trivial, .stop ends⟩
  | looser ends => exact ⟨hd, trivial, .looser ends⟩
  | stuck tighter step ih =>
    obtain ⟨rest, -, hstep⟩ := ih [] hf trivial hd
    exact ⟨rest, trivial, .stuck tighter hstep⟩
  | whole first tail ihf iht =>
    obtain ⟨rest, -, hfirst⟩ := ihf [] hf trivial hd
    obtain ⟨rest, -, htail⟩ := iht [] hf trivial rest
    exact ⟨rest, trivial, .whole hfirst htail⟩
  | tighter tighter step moves tail ihs iht =>
    obtain ⟨rest, -, hstep⟩ := ihs [] hf trivial hd
    obtain ⟨rest, -, htail⟩ := iht [] hf trivial rest
    exact ⟨rest, trivial, .tighter tighter hstep moves htail⟩
  | call opens list builds tail ihl iht =>
    rw [Goal.frames, distinctKeys_open (Or.inl opens)] at hd
    obtain ⟨rest, -, hlist⟩ := ihl [] hf (by simp [Goal.Closes]) hd
    obtain ⟨rest, -, htail⟩ := iht [] hf trivial rest
    exact ⟨rest, trivial, .call opens hlist builds htail⟩
  | index opens key closes tail ihk iht =>
    rw [Goal.frames, distinctKeys_open (Or.inr opens)] at hd
    obtain ⟨rest, -, hkey⟩ := ihk [] settled_other trivial hd
    rw [distinctKeys_close (by simp) closes] at rest
    obtain ⟨rest, -, htail⟩ := iht [] hf trivial rest
    exact ⟨rest, trivial, .index opens hkey closes htail⟩
  | getter kind operand splits tail iho iht =>
    rw [Goal.frames, distinctKeys_plain hf kind (by decide)] at hd
    obtain ⟨rest, -, hoperand⟩ := iho [] hf trivial hd
    obtain ⟨rest, -, htail⟩ := iht [] hf trivial rest
    exact ⟨rest, trivial, .getter kind hoperand splits htail⟩
  | method kind operand splits builds tail iho iht =>
    rw [Goal.frames, distinctKeys_plain hf kind (by decide)] at hd
    obtain ⟨rest, -, hoperand⟩ := iho [] hf trivial hd
    obtain ⟨rest, -, htail⟩ := iht [] hf trivial rest
    exact ⟨rest, trivial, .method kind hoperand splits builds htail⟩
  | ternary kind value binds first colons second tail ihf ihs iht =>
    rw [Goal.frames, distinctKeys_plain hf kind (by decide)] at hd
    obtain ⟨rest, -, hfirst⟩ := ihf [] hf trivial hd
    rw [distinctKeys_plain hf colons (by decide)] at rest
    obtain ⟨rest, -, hsecond⟩ := ihs [] hf trivial rest
    obtain ⟨rest, -, htail⟩ := iht [] hf trivial rest
    exact ⟨rest, trivial, .ternary kind value binds hfirst colons hsecond htail⟩
  | binary kind value binds known first second tail ihf ihs iht =>
    rw [Goal.frames, distinctKeys_plain hf kind (by decide)] at hd
    obtain ⟨rest, -, hfirst⟩ := ihf [] hf trivial hd
    obtain ⟨rest, -, hsecond⟩ := ihs [] hf trivial rest
    obtain ⟨rest, -, htail⟩ := iht [] hf trivial rest
    exact ⟨rest, trivial, .binary kind value binds known hfirst hsecond htail⟩
  | atom kind primary ih =>
    obtain ⟨rest, -, hprimary⟩ := ih [] hf trivial hd
    exact ⟨rest, trivial, .atom kind hprimary⟩
  | signed kind sign' number' reads =>
    rw [Goal.frames, distinctKeys_plain hf kind (by decide),
      distinctKeys_plain hf rfl (by rcases number' with h | h <;> simp [h])] at hd
    exact ⟨hd, trivial, .signed kind sign' number' reads⟩
  | prefixed kind unsigned known primary tail ihp iht =>
    rw [Goal.frames, distinctKeys_plain hf kind (by decide)] at hd
    obtain ⟨rest, -, hprimary⟩ := ihp [] hf trivial hd
    obtain ⟨rest, -, htail⟩ := iht [] hf trivial rest
    exact ⟨rest, trivial, .prefixed kind unsigned known hprimary htail⟩
  | this kind value =>
    rw [Goal.frames, distinctKeys_plain hf kind (by decide)] at hd
    exact ⟨hd, trivial, .this kind value⟩
  | constant reads =>
    rw [Goal.frames, distinctKeys_plain hf rfl (plain_of_constant reads)] at hd
    exact ⟨hd, trivial, .constant reads⟩
  | name kind noWord ends =>
    rw [Goal.frames, distinctKeys_plain hf kind (by decide)] at hd
    exact ⟨hd, trivial, .name kind noWord ends⟩
  | nameCall kind noWord opens list builds ih =>
    rw [Goal.frames, distinctKeys_plain hf kind (by decide),
      distinctKeys_open (Or.inl opens)] at hd
    obtain ⟨rest, -, hlist⟩ := ih [] hf (by simp [Goal.Closes]) hd
    exact ⟨rest, trivial, .nameCall kind noWord opens hlist builds⟩
  | paren opens run closes ih =>
    rw [Goal.frames, distinctKeys_open (Or.inl opens)] at hd
    obtain ⟨rest, -, hrun⟩ := ih [] settled_other trivial hd
    rw [distinctKeys_close (by simp) closes] at rest
    exact ⟨rest, trivial, .paren opens hrun closes⟩
  | map opens list ih =>
    rw [Goal.frames, distinctKeys_openBrace opens] at hd
    obtain ⟨rest, fresh, hlist⟩ := ih [] hf trivial hd
    rw [hmerge _ fresh.1]
    exact ⟨rest, trivial, .map opens hlist⟩
  | list opens list ih =>
    rw [Goal.frames, distinctKeys_open (Or.inr opens)] at hd
    obtain ⟨rest, -, hlist⟩ := ih [] hf (by simp [Goal.Closes]) hd
    exact ⟨rest, trivial, .list opens hlist⟩
  | itemsNone closes =>
    rw [Goal.frames, distinctKeys_close hc closes] at hd
    exact ⟨hd, trivial, .itemsNone closes⟩
  | itemsLast opens run closes ih =>
    obtain ⟨rest, -, hrun⟩ := ih [] settled_other trivial hd
    rw [distinctKeys_close hc closes] at rest
    exact ⟨rest, trivial, .itemsLast opens hrun closes⟩
  | itemsMore opens run commas more ihr ihm =>
    obtain ⟨rest, -, hrun⟩ := ihr [] settled_other trivial hd
    rw [distinctKeys_comma commas] at rest
    obtain ⟨rest, -, hmore⟩ := ihm [] hf hc rest
    exact ⟨rest, trivial, .itemsMore opens hrun commas hmore⟩
  | entriesNone closes =>
    rw [Goal.frames, distinctKeys_close (by simp) closes] at hd
    exact ⟨hd, by simp [Yield.Fresh], .entriesNone closes⟩
  | entriesLast kind colons run closes ih =>
    rw [Goal.frames, distinctKeys_key kind,
      distinctKeys_plain settled_brace colons (by decide)] at hd
    obtain ⟨rest, -, hrun⟩ := ih [] settled_brace trivial hd.2
    rw [distinctKeys_close (by simp) closes] at rest
    exact ⟨rest, by simp [Yield.Fresh, hd.1], .entriesLast kind colons hrun closes⟩
  | @entriesMore key colon comma ts us vs value entries kind colons run commas more ihr ihm =>
    rw [Goal.frames, distinctKeys_key kind,
      distinctKeys_plain settled_brace colons (by decide)] at hd
    obtain ⟨rest, -, hrun⟩ := ihr [] settled_brace trivial hd.2
    rw [distinctKeys_commaBrace commas] at rest
    obtain ⟨rest, ⟨hnodup, hfresh⟩, hmore⟩ := ihm (key.value :: keys) hf trivial rest
    refine ⟨rest, ⟨?_, ?_⟩, .entriesMore kind colons hrun commas hmore⟩
    · rw [List.map_cons, List.nodup_cons]
      exact ⟨fun hmem => hfresh _ hmem List.mem_cons_self, hnodup⟩
    · intro k hk
      rw [List.map_cons, List.mem_cons] at hk
      obtain rfl | hk := hk
      · exact hd.1
      · exact fun hmem => hfresh k hk (List.mem_cons_of_mem _ hmem)

/-! ## Where all entries are kept -/

variable {R : List String → List String → Prop} {split split' : Expr → Except String (Member Expr)}

/-- Along a run that keeps all entries no word is lost, and none is made up, but by
splitting. -/
theorem conserved (hR : Conserves R)
    (hsplit : ∀ {node m}, split node = .ok m → R m.words node.words)
    (h : RunWith allEntries (builderWith split) goal ts result us) :
    R (result.words ++ words us) (goal.words ++ words ts) := by
  -- The words are put together from the last part of a run to the first.
  induction h with
  | empty => exact hR.refl _
  | stop => exact hR.refl _
  | looser => exact hR.refl _
  | stuck tighter step ih => exact ih
  | whole first tail ihf iht => exact hR.trans iht ihf
  | tighter tighter step moves tail ihs iht => exact hR.trans iht ihs
  | @call left callee node minimum opener ts us vs nodes opens list builds tail ihl iht =>
    cases builds
    refine hR.trans iht ?_
    have := hR.left left.words ihl
    simpa [Goal.words, Yield.words, Expr.words, words_cons_of_none (word?_of_isSymbol opens)]
      using this
  | @index left argument node minimum opener closer ts us vs opens key closes tail ihk iht =>
    refine hR.trans iht ?_
    rw [words_cons_of_none (word?_of_isSymbol closes)] at ihk
    have := hR.left left.words ihk
    simpa [Goal.words, Yield.words, Expr.words, builderWith, builder,
      words_cons_of_none (word?_of_isSymbol opens)] using this
  | @getter left right node minimum dot ts us vs name kind operand splits tail iho iht =>
    refine hR.trans iht ?_
    -- Here the node behind the dot is split, and only here.
    have hmember := hR.append (hsplit splits) (hR.refl (words us))
    have := hR.left left.words (hR.trans hmember iho)
    simpa [Goal.words, Yield.words, Expr.words, builderWith, builder, Member.words,
      words_cons_of_none (word?_of_kind kind)] using this
  | @method left right callee node minimum dot ts us vs name nodes kind operand splits builds tail
      iho iht =>
    cases builds
    refine hR.trans iht ?_
    have hmember := hR.append (hsplit splits) (hR.refl (words us))
    have := hR.left left.words (hR.trans hmember iho)
    simpa [Goal.words, Yield.words, Expr.words, Member.words,
      words_cons_of_none (word?_of_kind kind)] using this
  | @ternary left whenTrue whenFalse node minimum mark colon ts us vs ws kind value binds first
      colons second tail ihf ihs iht =>
    refine hR.trans iht ?_
    rw [words_cons_of_none (word?_of_kind colons)] at ihf
    have := hR.left left.words (hR.trans (hR.left whenTrue.words ihs) ihf)
    simpa [Goal.words, Yield.words, Expr.words, builderWith, builder,
      words_cons_of_none (word?_of_kind kind)] using this
  | @binary left operand right node minimum operator ts us vs ws kind value binds known first second
      tail ihf ihs iht =>
    refine hR.trans iht ?_
    have := hR.left left.words (hR.trans ihs ihf)
    simpa [Goal.words, Yield.words, Expr.words, builderWith, builder,
      words_cons_of_none (word?_of_kind kind)] using this
  | atom kind primary ih => exact ih
  | signed kind sign' number' reads =>
    rw [words_cons_of_none (word?_of_kind kind), words_cons_of_none (word?_of_isNumber number')]
    simpa [Goal.words, Yield.words, Expr.words, builderWith, builder,
      words_of_signedNumber? reads] using hR.refl _
  | prefixed kind unsigned known primary tail ihp iht =>
    rw [words_cons_of_none (word?_of_kind kind)]
    exact hR.trans iht ihp
  | this kind value =>
    rw [words_cons_of_some (word?_of_kind kind)]
    exact hR.refl _
  | constant reads =>
    rw [words_cons_of_constant reads]
    exact hR.refl _
  | name kind noWord ends =>
    rw [words_cons_of_some (word?_of_kind kind)]
    exact hR.refl _
  | @nameCall t opener ts us nodes node kind noWord opens list builds ih =>
    cases builds
    have := hR.left [t.value] ih
    rw [words_cons_of_some (word?_of_kind kind),
      words_cons_of_none (word?_of_isSymbol opens)]
    simpa [Goal.words, Yield.words, Expr.words, builderWith, builder] using this
  | paren opens run closes ih =>
    rw [words_cons_of_none (word?_of_isSymbol closes)] at ih
    rw [words_cons_of_none (word?_of_isSymbol opens)]
    exact ih
  | map opens list ih =>
    rw [words_cons_of_none (word?_of_isSymbol opens)]
    exact ih
  | list opens list ih =>
    rw [words_cons_of_none (word?_of_isSymbol opens)]
    exact ih
  | itemsNone closes =>
    rw [words_cons_of_none (word?_of_isSymbol closes)]
    exact hR.refl _
  | itemsLast opens run closes ih =>
    rw [words_cons_of_none (word?_of_isSymbol closes)] at ih
    simpa [Goal.words, Yield.words, Expr.wordsOfItems] using ih
  | @itemsMore closer comma ts us vs item items opens run commas more ihr ihm =>
    rw [words_cons_of_none (word?_of_kind commas)] at ihr
    have := hR.trans (hR.left item.words ihm) ihr
    simpa [Goal.words, Yield.words, Expr.wordsOfItems] using this
  | entriesNone closes =>
    rw [words_cons_of_none (word?_of_isSymbol closes)]
    exact hR.refl _
  | @entriesLast key colon t ts us value kind colons run closes ih =>
    rw [words_cons_of_none (word?_of_isSymbol closes)] at ih
    have := hR.left [key.value] ih
    rw [words_cons_of_some (word?_of_kind kind),
      words_cons_of_none (word?_of_kind colons)]
    simpa [Goal.words, Yield.words, Expr.wordsOfEntries] using this
  | @entriesMore key colon comma ts us vs value entries kind colons run commas more ihr ihm =>
    rw [words_cons_of_none (word?_of_kind commas)] at ihr
    have := hR.left [key.value] (hR.trans (hR.left value.words ihm) ihr)
    rw [words_cons_of_some (word?_of_kind kind),
      words_cons_of_none (word?_of_kind colons)]
    simpa [Goal.words, Yield.words, Expr.wordsOfEntries] using this

/-- A builder that splits more nodes goes the same way. -/
theorem RunWith.of_split (hsplit : ∀ {node m}, split node = .ok m → split' node = .ok m)
    (h : RunWith merge (builderWith split) goal ts result us) :
    RunWith merge (builderWith split') goal ts result us := by
  induction h with
  | empty => exact .empty
  | whole _ _ first tail => exact .whole first tail
  | stop ends => exact .stop ends
  | call opens _ builds _ list tail => exact .call opens list builds tail
  | index opens _ closes _ key tail => exact .index opens key closes tail
  | getter kind _ splits _ operand tail => exact .getter kind operand (hsplit splits) tail
  | method kind _ splits builds _ operand tail =>
    exact .method kind operand (hsplit splits) builds tail
  | ternary kind value binds _ colons _ _ first second tail =>
    exact .ternary kind value binds first colons second tail
  | binary kind value binds known _ _ _ first second tail =>
    exact .binary kind value binds known first second tail
  | looser ends => exact .looser ends
  | stuck tighter _ step => exact .stuck tighter step
  | tighter tighter _ moves _ step tail => exact .tighter tighter step moves tail
  | atom kind _ primary => exact .atom kind primary
  | signed kind sign number reads => exact .signed kind sign number reads
  | prefixed kind unsigned known _ _ primary tail =>
    exact .prefixed kind unsigned known primary tail
  | this kind value => exact .this kind value
  | constant reads => exact .constant reads
  | name kind noWord ends => exact .name kind noWord ends
  | nameCall kind noWord opens _ builds list => exact .nameCall kind noWord opens list builds
  | paren opens _ closes run => exact .paren opens run closes
  | map opens _ list => exact .map opens list
  | list opens _ list => exact .list opens list
  | itemsNone closes => exact .itemsNone closes
  | itemsLast opens _ closes run => exact .itemsLast opens run closes
  | itemsMore opens _ commas _ run rest => exact .itemsMore opens run commas rest
  | entriesNone closes => exact .entriesNone closes
  | entriesLast kind colons _ closes run => exact .entriesLast kind colons run closes
  | entriesMore kind colons _ commas _ run rest => exact .entriesMore kind colons run commas rest

/-! ## Where nothing is lost -/

/-- Both ways to split a node use words of it only, in their order. -/
theorem words_sublist_of_member {node : Expr} {m : Member Expr} (h : Expr.member node = .ok m) :
    m.words.Sublist node.words := by
  unfold Expr.member at h
  split at h
  · cases h
    exact List.Sublist.refl _
  · rename_i name method arguments
    cases h
    simp only [Member.words, Expr.words, List.append_assoc]
    exact (List.sublist_append_right _ _).cons_cons _
  · cases h

theorem words_eq_of_strictMember {node : Expr} {m : Member Expr}
    (h : strictMember node = .ok m) : m.words = node.words := by
  unfold strictMember at h
  split at h
  · cases h
    rfl
  · cases h
    rfl
  · cases h

/-- A splitting that loses no word is a strict one. -/
theorem strictMember_of_length {node : Expr} {m : Member Expr} (h : Expr.member node = .ok m)
    (hlen : node.words.length ≤ m.words.length) : strictMember node = .ok m := by
  unfold Expr.member at h
  split at h
  · exact h
  · rename_i name method arguments
    cases method with
    | none => exact h
    | some method =>
      cases h
      simp only [Member.words, Expr.words, Option.toList_some, List.length_append,
        List.length_cons] at hlen
      omega
  · cases h

theorem member_of_strictMember {node : Expr} {m : Member Expr} (h : strictMember node = .ok m) :
    Expr.member node = .ok m := by
  unfold strictMember at h
  split at h
  · exact h
  · exact h
  · cases h

/-- A run of the plain builder loses words at most. -/
theorem words_sublist_of_run (h : RunWith allEntries builder goal ts result us) :
    (result.words ++ words us).Sublist (goal.words ++ words ts) :=
  @conserved goal ts us result List.Sublist Expr.member conserves_sublist words_sublist_of_member h

theorem words_length_le (h : RunWith allEntries builder goal ts result us) :
    result.words.length + (words us).length ≤ goal.words.length + (words ts).length := by
  have hlength := (words_sublist_of_run h).length_le
  simpa only [List.length_append] using hlength

/-- A run of the plain builder that loses no word is a run of the strict one:
were a word lost on the way, the other parts of the run could not make up for
it. -/
theorem strict_of_length (h : RunWith allEntries builder goal ts result us)
    (hlen : goal.words.length + (words ts).length ≤ result.words.length + (words us).length) :
    RunWith allEntries strictBuilder goal ts result us := by
  -- No part of the run makes up a word, so none of them loses one.
  induction h with
  | empty => exact .empty
  | stop ends => exact .stop ends
  | looser ends => exact .looser ends
  | stuck tighter step ih => exact .stuck tighter (ih hlen)
  | whole first tail ihf iht =>
    have lf := words_length_le first
    have lt := words_length_le tail
    simp only [Goal.words, Yield.words, List.length_nil] at *
    exact .whole (ihf (by omega)) (iht (by omega))
  | tighter tighter step moves tail ihs iht =>
    have ls := words_length_le step
    have lt := words_length_le tail
    simp only [Goal.words, Yield.words] at *
    exact .tighter tighter (ihs (by omega)) moves (iht (by omega))
  | call opens list builds tail ihl iht =>
    cases builds
    have ll := words_length_le list
    have lt := words_length_le tail
    simp only [Goal.words, Yield.words, Expr.words, words_cons_of_none (word?_of_isSymbol opens),
      List.length_append, List.length_nil, Option.toList_none] at *
    exact .call opens (ihl (by omega)) rfl (iht (by omega))
  | index opens key closes tail ihk iht =>
    have lk := words_length_le key
    have lt := words_length_le tail
    simp only [Goal.words, Yield.words, builder, Expr.words, List.length_append, List.length_nil,
      words_cons_of_none (word?_of_isSymbol opens),
      words_cons_of_none (word?_of_isSymbol closes)] at *
    exact .index opens (ihk (by omega)) closes (iht (by omega))
  | @getter left right node minimum dot ts us vs name kind operand splits tail iho iht =>
    have hdot : dot.word? = none := word?_of_kind kind
    have lo := words_length_le operand
    have lt := words_length_le tail
    have lm := (words_sublist_of_member splits).length_le
    simp only [Goal.words, Yield.words, builder, Expr.words, Member.words, List.length_append,
      List.length_nil, List.length_cons, words_cons_of_none hdot] at *
    have hstrict : strictMember right = .ok (.name name) := strictMember_of_length splits
      (by simp only [Member.words, List.length_cons, List.length_nil]; omega)
    exact .getter kind (iho (by omega)) hstrict (iht (by omega))
  | @method left right callee node minimum dot ts us vs name nodes kind operand splits builds tail
      iho iht =>
    cases builds
    have hdot : dot.word? = none := word?_of_kind kind
    have lo := words_length_le operand
    have lt := words_length_le tail
    have lm := (words_sublist_of_member splits).length_le
    simp only [Goal.words, Yield.words, builder, Expr.words, Member.words, List.length_append,
      Option.toList_some, List.length_cons, List.length_nil, words_cons_of_none hdot] at *
    have hstrict : strictMember right = .ok (.call name nodes) := strictMember_of_length splits
      (by simp only [Member.words, List.length_cons]; omega)
    exact .method kind (iho (by omega)) hstrict rfl (iht (by omega))
  | @ternary left whenTrue whenFalse node minimum mark colon ts us vs ws kind value binds first
      colons second tail ihf ihs iht =>
    have hcolon : colon.word? = none := word?_of_kind colons
    have lf := words_length_le first
    have ls := words_length_le second
    have lt := words_length_le tail
    simp only [Goal.words, Yield.words, builder, Expr.words, List.length_append, List.length_nil,
      words_cons_of_none hcolon, words_cons_of_none (word?_of_kind kind)] at *
    exact .ternary kind value binds (ihf (by omega)) colons (ihs (by omega)) (iht (by omega))
  | binary kind value binds known first second tail ihf ihs iht =>
    have lf := words_length_le first
    have ls := words_length_le second
    have lt := words_length_le tail
    simp only [Goal.words, Yield.words, builder, Expr.words, List.length_append, List.length_nil,
      words_cons_of_none (word?_of_kind kind)] at *
    exact .binary kind value binds known (ihf (by omega)) (ihs (by omega)) (iht (by omega))
  | atom kind primary ih => exact .atom kind (ih hlen)
  | signed kind sign' number' reads => exact .signed kind sign' number' reads
  | prefixed kind unsigned known primary tail ihp iht =>
    have lp := words_length_le primary
    have lt := words_length_le tail
    simp only [Goal.words, Yield.words, List.length_nil, builder, Expr.words,
      words_cons_of_none (word?_of_kind kind)] at *
    exact .prefixed kind unsigned known (ihp (by omega)) (iht (by omega))
  | this kind value => exact .this kind value
  | constant reads => exact .constant reads
  | name kind noWord ends => exact .name kind noWord ends
  | @nameCall t opener ts us nodes node kind noWord opens list builds ih =>
    cases builds
    have ht : t.word? = some t.value := word?_of_kind kind
    simp only [Goal.words, Yield.words, builder, Expr.words, List.length_append, List.length_cons,
      Option.toList_none, List.length_nil, words_cons_of_some ht,
      words_cons_of_none (word?_of_isSymbol opens)] at *
    exact .nameCall kind noWord opens (ih (by omega)) rfl
  | paren opens run closes ih =>
    simp only [Goal.words, Yield.words, builder, words_cons_of_none (word?_of_isSymbol opens),
      words_cons_of_none (word?_of_isSymbol closes)] at *
    exact .paren opens (ih hlen) closes
  | map opens list ih =>
    simp only [Goal.words, Yield.words, builder, Expr.words, allEntries,
      words_cons_of_none (word?_of_isSymbol opens)] at *
    exact .map opens (ih hlen)
  | list opens list ih =>
    simp only [Goal.words, Yield.words, builder, Expr.words,
      words_cons_of_none (word?_of_isSymbol opens)] at *
    exact .list opens (ih hlen)
  | itemsNone closes => exact .itemsNone closes
  | itemsLast opens run closes ih =>
    simp only [Goal.words, Yield.words, wordsOfItems, List.append_nil,
      words_cons_of_none (word?_of_isSymbol closes)] at *
    exact .itemsLast opens (ih hlen) closes
  | @itemsMore closer comma ts us vs item items opens run commas more ihr ihm =>
    have hcomma : comma.word? = none := word?_of_kind commas
    have lr := words_length_le run
    have lm := words_length_le more
    simp only [Goal.words, Yield.words, wordsOfItems, List.length_append, List.length_nil,
      words_cons_of_none hcomma] at *
    exact .itemsMore opens (ihr (by omega)) commas (ihm (by omega))
  | entriesNone closes => exact .entriesNone closes
  | @entriesLast key colon t ts us value kind colons run closes ih =>
    have hkey : key.word? = some key.value := word?_of_kind kind
    have hcolon : colon.word? = none := word?_of_kind colons
    simp only [Goal.words, Yield.words, wordsOfEntries, List.append_nil, List.length_cons,
      List.length_nil, words_cons_of_some hkey, words_cons_of_none hcolon,
      words_cons_of_none (word?_of_isSymbol closes)] at *
    exact .entriesLast kind colons (ih (by omega)) closes
  | @entriesMore key colon comma ts us vs value entries kind colons run commas more ihr ihm =>
    have hkey : key.word? = some key.value := word?_of_kind kind
    have hcolon : colon.word? = none := word?_of_kind colons
    have hcomma : comma.word? = none := word?_of_kind commas
    have lr := words_length_le run
    have lm := words_length_le more
    simp only [Goal.words, Yield.words, wordsOfEntries, List.length_append, List.length_nil,
      List.length_cons, words_cons_of_some hkey, words_cons_of_none hcolon,
      words_cons_of_none hcomma] at *
    exact .entriesMore kind colons (ihr (by omega)) commas (ihm (by omega))

end Parser

namespace Expr

/-- Where no map literal repeats a key, a tree has the words of its source, or
some of them in the same order; and it has them all just if every node after a
dot is a name or a bare call, which is to say that the strict builder makes the
tree as well. -/
theorem words_eq_iff_strict {source : String} {e : Expr} (h : parse source = .ok e)
    (hkeys : distinctKeys [] (Token.Stream.ofText source).tokens = true) :
    e.words.Sublist (Token.words (Token.Stream.ofText source).tokens) ∧
      (e.words = Token.words (Token.Stream.ofText source).tokens ↔
        BindingLang.parse strictBuilder source = .ok e) := by
  obtain ⟨hf, run⟩ := parse_eq_ok_iff.mp h
  have hall := (Parser.unrepeated (fun _ => Parser.mergeEntries_of_nodup) run [] settled_nil
    trivial hkeys).run
  have hwords := Parser.words_sublist_of_run hall
  simp only [Parser.Yield.words, Parser.Goal.words, Token.words_nil, List.append_nil,
    List.nil_append] at hwords
  refine ⟨hwords, ?_, ?_⟩
  · intro heq
    have hstrict : Parser.RunWith Parser.allEntries strictBuilder .expression
        (Token.Stream.ofText source).tokens (.node e) [] :=
      Parser.strict_of_length hall (by simp [Parser.Yield.words, Parser.Goal.words, heq])
    have hmerge : ∀ entries : List (String × Expr), (entries.map Prod.fst).Nodup →
        Parser.allEntries entries = Parser.mergeEntries entries :=
      fun _ hnodup => (Parser.mergeEntries_of_nodup hnodup).symm
    exact parse_eq_ok_iff.mpr
      ⟨hf, (Parser.unrepeated hmerge hstrict [] settled_nil trivial hkeys).run⟩
  · intro hstrict
    obtain ⟨-, run⟩ := parse_eq_ok_iff.mp hstrict
    have hall := (Parser.unrepeated (fun _ => Parser.mergeEntries_of_nodup) run [] settled_nil
      trivial hkeys).run
    have hwords := Parser.conserved conserves_eq Parser.words_eq_of_strictMember hall
    simpa [Parser.Yield.words, Parser.Goal.words] using hwords

/-- The tokens of `d))`, `c(d))` and `b.c(d))`, the ends of a source. -/
def argumentTokens : List Token := [wordToken "d", bracketToken ')', bracketToken ')']

def callTokens : List Token := wordToken "c" :: bracketToken '(' :: argumentTokens

def methodTokens : List Token := wordToken "b" :: dotToken :: callTokens

/-- A single letter, before anything but its arguments. -/
theorem run_letter {name : String} {ts : List Token} (hkind : (wordToken name).kind = .identifier)
    (hname : Parser.wordLiteral? name = none)
    (hends : ∀ t ∈ ts.head?, t.isSymbol .grouper "(" = false) :
    Parser.Run builder .unary (wordToken name :: ts) (.node (.id name)) ts :=
  .atom (by rw [hkind]; decide) (.name hkind hname hends)

/-- In parentheses the node behind the dot is a call of a method; into a name and
arguments it is split like a bare call, and the method `c` is gone. -/
theorem parse_method_after_dot :
    parse "a.(b.c(d))" = .ok (.invoke (.id "a") (some "b") [.id "d"]) := by
  have htokens : Token.Stream.ofText "a.(b.c(d))" =
      ⟨wordToken "a" :: dotToken :: bracketToken '(' :: methodTokens, none⟩ := by decide
  have hends : ∀ ts : List Token, ∀ t ∈ (bracketToken ')' :: ts).head?, ¬ Parser.Extends 0 t := by
    rintro ts t ⟨⟩
    simp [Parser.Extends, Token.isSymbol, bracketToken]
  have hargument : Parser.Run builder .expression argumentTokens (.node (.id "d"))
      [bracketToken ')', bracketToken ')'] :=
    .whole (run_letter rfl rfl (by decide)) (.stop (hends _))
  have hcall : Parser.Run builder .unary callTokens (.node (.invoke (.id "c") none [.id "d"]))
      [bracketToken ')'] :=
    .atom (by decide) (.nameCall rfl rfl rfl (.itemsLast (by decide) hargument rfl) rfl)
  have hmethod : Parser.Run builder .expression methodTokens
      (.node (.invoke (.id "b") (some "c") [.id "d"])) [bracketToken ')'] :=
    .whole (run_letter rfl rfl (by decide)) (.method rfl hcall rfl rfl (.stop (hends _)))
  apply parse_eq_ok_iff.mpr
  rw [htokens]
  refine ⟨rfl, .whole (run_letter rfl rfl (by decide)) (.method rfl
    (.atom (by decide) (.paren rfl hmethod rfl)) rfl rfl (.stop ?_))⟩
  intro t ht
  cases ht

/-- The source `a.(b.c(d))` is read as `a.b(d)`; the strict builder refuses it. -/
theorem words_ne_of_method_after_dot :
    parse "a.(b.c(d))" = .ok (.invoke (.id "a") (some "b") [.id "d"]) ∧
      (words (.invoke (.id "a") (some "b") [.id "d"]) ≠
        Token.words (Token.Stream.ofText "a.(b.c(d))").tokens) ∧
      BindingLang.parse strictBuilder "a.(b.c(d))" ≠
        .ok (.invoke (.id "a") (some "b") [.id "d"]) := by
  have hparse := parse_method_after_dot
  have hne : words (.invoke (.id "a") (some "b") [.id "d"]) ≠
      Token.words (Token.Stream.ofText "a.(b.c(d))").tokens := by decide
  refine ⟨hparse, hne, fun hstrict => hne ?_⟩
  exact (words_eq_iff_strict hparse (by decide)).2.mpr hstrict

end Expr

end BindingLang
