import BindingLang.Proofs.Eval.Dependencies
import BindingLang.Proofs.Parser.Enclosing
import Mathlib
/-!
  Repeated keys: the map literal with one key twice or more.

  A parser that meets a key again puts the new value in the place of the old one, and an
  evaluation that meets it again binds it anew. So it makes no difference whether the
  repeated keys of a literal are merged as it is parsed or as its value is built, as long
  as every value can be had: an evaluation of the merged literal leaves out the values
  that have been replaced.

  What is proved:
    1. `parse_mapLiteral` — a literal with values in parentheses parses to the map of its
       entries, merged.
    2. `result_map_merged` — with the merged entries a map has the value that it has with
       all of them.
    3. `repeated_keys_agree` — both, and what the merged entries are.
-/

namespace BindingLang

/-! ## Literals -/

/-- Blanks, or nothing. -/
structure Blanks where
  chars : List Char
  blank : ∀ c ∈ chars, Text.isBlank c = true

/-- An entry as it is written: a key in quotes, a colon and a value in parentheses. -/
structure WrittenEntry where
  before : Blanks
  quote : Quote
  body : List Char
  key : String
  inQuotes : InQuotes quote body key.toList
  between : Blanks
  value : String

namespace WrittenEntry

/-- The value in its parentheses. -/
def enclosedValue (entry : WrittenEntry) : String := "(" ++ entry.value ++ ")"

/-- Whether the scanner takes the value to its end, and the value parses to the tree. -/
def Parses (entry : WrittenEntry) (tree : Expr) : Prop :=
  (∃ ts, Written entry.enclosedValue.toList ts) ∧ Expr.parse entry.enclosedValue = .ok tree

def keyChars (entry : WrittenEntry) : List Char :=
  entry.before.chars ++ (entry.quote.char :: entry.body ++ [entry.quote.char])

def valueChars (entry : WrittenEntry) : List Char :=
  entry.between.chars ++ entry.enclosedValue.toList

/-- The texts of entries with commas between them, and one behind the last if `trailing`. -/
def entriesChars (trailing : Bool) (last : Blanks) : List WrittenEntry → List Char
  | [] => last.chars
  | [entry] =>
    if trailing then entry.keyChars ++ ':' :: (entry.valueChars ++ ',' :: last.chars)
    else entry.keyChars ++ ':' :: (entry.valueChars ++ last.chars)
  | entry :: entries =>
    entry.keyChars ++ ':' :: (entry.valueChars ++ ',' :: entriesChars trailing last entries)

/-- An entry without blanks. -/
def plain (key value : String) : WrittenEntry where
  before := ⟨[], fun _ hc => absurd hc List.not_mem_nil⟩
  quote := .single
  body := escaped .single key.toList
  key := key
  inQuotes := inQuotes_escaped .single key.toList
  between := ⟨[], fun _ hc => absurd hc List.not_mem_nil⟩
  value := value

/-- The map literal of the entries. A comma behind the last one needs one. -/
def mapLiteral (entries : List WrittenEntry) (trailing : Bool) (last : Blanks) : String :=
  String.ofList ('\x7b' :: (entriesChars trailing last entries ++ ['\x7d']))

end WrittenEntry

section Reading

open BindingLang.Parser WrittenEntry

variable {cs ks bs : List Char} {e : Expr}

theorem loose_blanks (hb : ∀ c ∈ bs, Text.isBlank c = true) (h : Loose cs) : Loose (bs ++ cs) := by
  cases bs with
  | nil => exact h
  | cons b bs => exact loose_cons (separates_of_isBlank (hb b List.mem_cons_self))

theorem reads_blanks_before (hb : ∀ c ∈ bs, Text.isBlank c = true) (h : Reads cs e) :
    Reads (bs ++ cs) e := by
  obtain ⟨ts, hwritten, hrun⟩ := h
  refine ⟨ts, fun hr hw => ?_, hrun⟩
  rw [List.append_assoc]
  exact (hwritten hr hw).blanks hb

theorem reads_blanks_behind (hb : ∀ c ∈ bs, Text.isBlank c = true) (h : Reads cs e) :
    Reads (cs ++ bs) e := by
  obtain ⟨ts, hwritten, hrun⟩ := h
  refine ⟨ts, fun hr hw => ?_, hrun⟩
  rw [List.append_assoc]
  exact hwritten (loose_blanks hb hr) (hw.blanks hb)

theorem WrittenEntry.readsKey (entry : WrittenEntry) : ReadsKey entry.keyChars entry.key := by
  intro rest us hw
  have hkey := readsKey_of_inQuotes entry.inQuotes hw
  rw [keyChars, List.append_assoc]
  exact hkey.blanks entry.before.blank

theorem WrittenEntry.reads {entry : WrittenEntry} (h : entry.Parses e) :
    Reads entry.valueChars e := by
  obtain ⟨⟨ts, hwritten⟩, hparse⟩ := h
  have hsource : entry.enclosedValue.toList = ('(' :: entry.value.toList) ++ [')'] := by
    rw [enclosedValue, String.toList_append, String.toList_append]
    rfl
  exact reads_blanks_before entry.between.blank (reads_of_parse hparse hwritten hsource)

/-- A value that reads as a tree by itself parses to it in its parentheses. -/
theorem WrittenEntry.parses_of_reads {entry : WrittenEntry} (h : Reads entry.value.toList e) :
    entry.Parses e := by
  have henclosed := h.enclosed.reads
  have htext : String.ofList (BindingLang.enclosed entry.value.toList) = entry.enclosedValue := by
    rw [← String.toList_inj, String.toList_ofList, enclosedValue, String.toList_append,
      String.toList_append]
    rfl
  have hparse := parse_of_reads henclosed
  obtain ⟨ts, hwritten, -⟩ := henclosed
  have hwhole := hwritten (fun c hc => by cases hc) .nil
  rw [List.append_nil, List.append_nil, ← String.toList_ofList (l := BindingLang.enclosed _),
    htext] at hwhole
  rw [htext] at hparse
  exact ⟨⟨ts, hwhole⟩, hparse⟩

theorem readsEntries_blanks (hb : ∀ c ∈ bs, Text.isBlank c = true) : ReadsEntries bs [] := by
  obtain ⟨ts, hwritten, hrun⟩ := readsEntries_nil
  exact ⟨ts, fun hw => (hwritten hw).blanks hb, hrun⟩

/-- A literal with values in parentheses reads as its entries, the repeated ones included. -/
theorem readsEntries_entriesChars (trailing : Bool) (last : Blanks)
    {entries : List (WrittenEntry × Expr)} (h : ∀ entry ∈ entries, entry.1.Parses entry.2) :
    ReadsEntries (entriesChars trailing last (entries.map Prod.fst))
      (entries.map fun entry => (entry.1.key, entry.2)) := by
  -- The last entry alone may have no comma behind it.
  induction entries with
  | nil => exact readsEntries_blanks last.blank
  | cons first entries ih =>
    have hkey : ReadsKey first.1.keyChars first.1.key := first.1.readsKey
    have hvalue := first.1.reads (h first List.mem_cons_self)
    cases entries with
    | nil =>
      rw [List.map_singleton, List.map_singleton, entriesChars]
      cases trailing with
      | true => exact readsEntries_cons hkey hvalue (readsEntries_blanks last.blank)
      | false => exact readsEntries_last hkey (reads_blanks_behind last.blank hvalue)
    | cons next entries =>
      exact readsEntries_cons hkey hvalue (ih fun entry hm => h entry (List.mem_cons_of_mem _ hm))

/-- A literal with values in parentheses parses to the map of its entries, merged. -/
theorem parse_mapLiteral (trailing : Bool) (last : Blanks) {entries : List (WrittenEntry × Expr)}
    (h : ∀ entry ∈ entries, entry.1.Parses entry.2) :
    Expr.parse (mapLiteral (entries.map Prod.fst) trailing last) =
      .ok (.map (mergeEntries (entries.map fun entry => (entry.1.key, entry.2)))) :=
  parse_of_reads (reads_merged (readsEntries_entriesChars trailing last h))

end Reading

/-! ## Values -/

section Values

open BindingLang.Parser EvalM

variable {σ α β : Type} {host : Host σ} {scope : Scope} {entries : List (String × Expr)}

/-- Behind a step that succeeds the rest is carried out. -/
theorem EvalM.result_bind_ok {m : EvalM σ α} {a : α} {state : σ} (h : m.result state = .ok a)
    (f : α → EvalM σ β) : ∃ next, (m >>= f).result state = (f a).result next := by
  rw [result_bind]
  unfold result at h
  rcases hrun : m.run.run state with ⟨_ | b, next⟩
  · rw [hrun] at h
    cases h
  · rw [hrun] at h
    cases h
    exact ⟨next, rfl⟩

/-- Entries whose values can be had from every state are evaluated to these values. -/
theorem result_evalEntries {value : Expr → Value}
    (h : ∀ entry ∈ entries, ∀ state, (entry.2.eval host scope).result state = .ok (value entry.2))
    (state : σ) : (Expr.evalEntries host scope entries).result state =
      .ok (entries.map (Prod.map id value)) := by
  induction entries generalizing state with
  | nil => rfl
  | cons first entries ih =>
    obtain ⟨key, node⟩ := first
    obtain ⟨hfirst, hrest⟩ := List.forall_mem_cons.mp h
    obtain ⟨next, hnext⟩ := result_bind_ok (hfirst state) fun a => do
      let values ← Expr.evalEntries host scope entries
      pure ((key, a) :: values)
    obtain ⟨last, hlast⟩ := result_bind_ok (ih hrest next) fun values =>
      pure ((key, value node) :: values)
    rw [Expr.evalEntries]
    exact hnext.trans hlast

/-- So is the map of them. -/
theorem result_map {value : Expr → Value}
    (h : ∀ entry ∈ entries, ∀ state, (entry.2.eval host scope).result state = .ok (value entry.2))
    (state : σ) : ((Expr.map entries).eval host scope).result state =
      .ok (.object (Dict.ofList (entries.map (Prod.map id value)))) := by
  obtain ⟨next, hnext⟩ := result_bind_ok (result_evalEntries h state) fun values =>
    pure (Value.object (Dict.ofList values))
  rw [Expr.eval]
  exact hnext

/-- With the merged entries a map has the value that it has with all of them. -/
theorem result_map_merged (hp : host.Pure) {state : σ}
    (h : ∀ entry ∈ entries, ∃ value, (entry.2.eval host scope).result state = .ok value) :
    ∃ object, ((Expr.map (mergeEntries entries)).eval host scope).result state =
        .ok (.object object) ∧
      ((Expr.map entries).eval host scope).result state = .ok (.object object) := by
  -- A value that can be had from one state can be had from all.
  let value (node : Expr) : Value := ((node.eval host scope).result state).toOption.getD .undefined
  have hall : ∀ entry ∈ entries, ∀ state',
      (entry.2.eval host scope).result state' = .ok (value entry.2) := by
    intro entry hentry state'
    obtain ⟨v, hv⟩ := h entry hentry
    have hvalue : value entry.2 = v := by
      show (Except.toOption _).getD _ = v
      rw [hv]
      rfl
    rw [hvalue, ← hv]
    exact Expr.eval_stateless scope hp entry.2 state' state
  have hmerged : ∀ entry ∈ mergeEntries entries, ∀ state',
      (entry.2.eval host scope).result state' = .ok (value entry.2) := fun entry hentry =>
    hall entry ((mergeEntries_subperm entries).subset hentry)
  refine ⟨_, ?_, result_map hall state⟩
  rw [result_map hmerged state, ← mergeEntries_map, ofList_mergeEntries]

end Values

/-- A map literal that repeats keys. Its values stand in parentheses, and each of them is
read to its end and parses. The literal parses to a map that has no key twice and has the
keys in the order in which each came first, each with the tree of its last value. Where all
the values can be had and functions depend on their arguments alone, the value of this map
is that of the map that still has all the entries. -/
theorem repeated_keys_agree (trailing : Bool) (last : Blanks)
    {entries : List (WrittenEntry × Expr)} (h : ∀ entry ∈ entries, entry.1.Parses entry.2) :
    ∃ merged : List (String × Expr),
      Expr.parse (WrittenEntry.mapLiteral (entries.map Prod.fst) trailing last) =
        .ok (.map merged) ∧
      (merged.map Prod.fst).Nodup ∧
      merged.map Prod.fst = (entries.map fun entry => entry.1.key).eraseDups ∧
      (∀ entry, entry ∈ merged ↔
        Dict.IsLast (entries.map fun entry => (entry.1.key, entry.2)) entry) ∧
      ∀ (σ : Type) (host : Host σ) (scope : Scope) (state : σ), host.Pure →
        (∀ entry ∈ entries, ∃ value, (entry.2.eval host scope).result state = .ok value) →
        ∃ object, ((Expr.map merged).eval host scope).result state = .ok (.object object) ∧
          ((Expr.map (entries.map fun entry => (entry.1.key, entry.2))).eval host scope).result
            state = .ok (.object object) := by
  refine ⟨_, parse_mapLiteral trailing last h, Parser.nodup_mergeEntries _, ?_,
    fun entry => Parser.mem_mergeEntries_iff, ?_⟩
  · rw [Parser.keys_mergeEntries, List.map_map]
    rfl
  · intro σ host scope state hp hvalues
    refine result_map_merged hp fun entry hentry => ?_
    obtain ⟨written, hmem, rfl⟩ := List.mem_map.mp hentry
    exact hvalues written hmem

/-- `{'a':(1),'b':(2),'a':(3),}` is `{'a': 3, 'b': 2}`. -/
theorem repeated_keys_agree_sample :
    ∃ merged, Expr.parse "\x7b'a':(1),'b':(2),'a':(3),\x7d" = .ok (.map merged) ∧
      merged.map Prod.fst = ["a", "b"] ∧
      ("a", .literal (.integer 3)) ∈ merged ∧
      ∃ object, ((Expr.map merged).eval Expr.echoHost Expr.oneLink).result () =
        .ok (.object object) := by
  let entries : List (WrittenEntry × Expr) :=
    [(.plain "a" "1", .literal (.integer 1)), (.plain "b" "2", .literal (.integer 2)),
      (.plain "a" "3", .literal (.integer 3))]
  have hparses : ∀ entry ∈ entries, entry.1.Parses entry.2 := by
    have hone : Parser.Reads "1".toList (.literal (.integer 1)) :=
      @Parser.reads_literal .single (.integer 1) trivial fun _ hx => by cases hx
    have htwo : Parser.Reads "2".toList (.literal (.integer 2)) :=
      @Parser.reads_literal .single (.integer 2) trivial fun _ hx => by cases hx
    have hthree : Parser.Reads "3".toList (.literal (.integer 3)) :=
      @Parser.reads_literal .single (.integer 3) trivial fun _ hx => by cases hx
    simp only [entries, List.forall_mem_cons, List.not_mem_nil, false_implies, implies_true,
      and_true]
    exact ⟨WrittenEntry.parses_of_reads hone, WrittenEntry.parses_of_reads htwo,
      WrittenEntry.parses_of_reads hthree⟩
  obtain ⟨merged, hparse, -, hkeys, hlast, hvalue⟩ :=
    repeated_keys_agree true ⟨[], fun _ hc => absurd hc List.not_mem_nil⟩ hparses
  refine ⟨merged, hparse, hkeys.trans (by decide), ?_, ?_⟩
  · rw [hlast]
    exact ⟨[("a", .literal (.integer 1)), ("b", .literal (.integer 2))], [], rfl, List.not_mem_nil⟩
  · have hvalues : ∀ entry ∈ entries, ∃ value,
        (entry.2.eval Expr.echoHost Expr.oneLink).result () = .ok value := by
      simp only [entries, List.forall_mem_cons, List.not_mem_nil, false_implies, implies_true,
        and_true]
      exact ⟨⟨_, rfl⟩, ⟨_, rfl⟩, ⟨_, rfl⟩⟩
    obtain ⟨object, hobject, -⟩ :=
      hvalue _ Expr.echoHost Expr.oneLink () (fun _ _ _ _ _ => rfl) hvalues
    exact ⟨object, hobject⟩

/-- A value may parse although it is not read to its end: no token starts with the character
behind the bracket, so the stream ends there. In a literal the closing brace is not read
then, and the literal does not parse. -/
theorem unread_value_breaks_literal :
    Expr.parse (WrittenEntry.plain "a" "1) #").enclosedValue = .ok (.literal (.integer 1)) ∧
      ∀ merged, Expr.parse (WrittenEntry.mapLiteral [.plain "a" "1) #"] false
        ⟨[], fun _ hc => absurd hc List.not_mem_nil⟩) ≠ .ok (.map merged) := by
  have hvalue : (WrittenEntry.plain "a" "1) #").enclosedValue = "(1) #)" := by decide
  have hliteral : WrittenEntry.mapLiteral [.plain "a" "1) #"] false
      ⟨[], fun _ hc => absurd hc List.not_mem_nil⟩ = "\x7b'a':(1) #)\x7d" := by decide
  have hparse : Expr.parse "(1) #)" = .ok (.literal (.integer 1)) := by cbv
  have hfails : Expr.parse "\x7b'a':(1) #)\x7d" =
      .error (.unexpectedToken "grouper '\x7d'" "end of input") := by cbv
  rw [hvalue, hliteral, hfails]
  exact ⟨hparse, fun merged heq => by cases heq⟩

end BindingLang
