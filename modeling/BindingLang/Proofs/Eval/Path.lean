import BindingLang.Eval.Basic
import BindingLang.Proofs.Parser.RoundTrip
/-!
  Paths: sources that read one thing after another.

  A path is a name, or the word `this`, and segments behind it: a member, an
  index under a number, an index under a text. It parses to a tree that leans to
  the left, one node for each segment, so its value is found by reading the
  segments one by one, from what the name stands for.

  What is proved:
    1. `Path.written`, `Path.run` — the text of a path scans to its tokens, and
       these run to its tree.
    2. `Path.eval_tree` — evaluation of the tree reads the segments in order,
       whatever the host is, and leaves the host as it was.
    3. `Path.readAll_eq_error_iff` — it stops at the first segment that is read
       from what is absent.
    4. `Path.parse_eval_eq_read` — all of it together.
-/

namespace BindingLang

namespace Path

/-- A segment of a path: `.name`, `[digits]` or `['text']`. -/
inductive Segment where
  | member (name : String) (known : Expr.IsName name)
  | position (digits : List Char) (written : IsDigits digits)
      (fits : (Binary64.digitsValue digits : Int) ≤ Integer.greatest)
  /-- The text between the quotation marks, and the text that it writes. -/
  | key (q : Quote) (body : List Char) (name : String) (writes : InQuotes q body name.toList)

end Path

/-- A name and segments behind it. -/
structure Path where
  head : String
  known : Expr.IsName head
  segments : List Path.Segment

namespace Path

namespace Segment

/-- The integer that digits write. -/
def number (digits : List Char) : Int64 := Int64.ofInt (Binary64.digitsValue digits)

/-- The text of a segment. -/
def chars : Segment → List Char
  | .member name _ => '.' :: name.toList
  | .position digits _ _ => '[' :: (digits ++ [']'])
  | .key q body _ _ => '[' :: (q.char :: body ++ [q.char] ++ [']'])

/-- The tokens of a segment. -/
def tokens : Segment → List Token
  | .member name _ => [dotToken, wordToken name]
  | .position digits _ _ =>
    [bracketToken '[', ⟨.integer, String.ofList digits, 0⟩, bracketToken ']']
  | .key _ _ name _ => [bracketToken '[', ⟨.string, name, 0⟩, bracketToken ']']

/-- The node of a segment behind a receiver. -/
def node (receiver : Expr) : Segment → Expr
  | .member name _ => .getter receiver name
  | .position digits _ _ => .index receiver (.literal (.integer (number digits)))
  | .key _ _ name _ => .index receiver (.literal (.string name))

/-- What a segment reads from a value. -/
def read (receiver : Value) : Segment → Except EvalError Value
  | .member name _ => receiver.member name
  | .position digits _ _ => receiver.index (.integer (number digits))
  | .key _ _ name _ => receiver.index (.string name)

/-- What a segment is said to read: the name, the number in decimal, or the text. -/
def property : Segment → String
  | .member name _ => name
  | .position digits _ _ => toString (Binary64.digitsValue digits)
  | .key _ _ name _ => name

end Segment

/-- What segments read one after another, each from what the one before it has
read. -/
def readAll (segments : List Segment) (value : Value) : Except EvalError Value :=
  segments.foldlM Segment.read value

/-- The source of a path. -/
def text (p : Path) : String :=
  String.ofList (p.head.toList ++ p.segments.flatMap Segment.chars)

/-- The tree of a path. -/
def tree (p : Path) : Expr := p.segments.foldl Segment.node (.id p.head)

/-- What the name at the head stands for: `this` for the scope itself. -/
def start (p : Path) (scope : Scope) : Value :=
  if p.head = "this" then .scope scope else scope.lookup p.head

/-- What a path reads in a scope. -/
def read (p : Path) (scope : Scope) : Except EvalError Value := readAll p.segments (p.start scope)

/-! ## The text -/

section Text

variable {rest : List Char} {us : List Token}

/-- Segments begin with a dot or a bracket, which a name does not go on with. -/
theorem head_segments (segments : List Segment) :
    ∀ c ∈ (segments.flatMap Segment.chars).head?, Symbol.isNameChar c = false := by
  cases segments with
  | nil => simp
  | cons segment segments =>
    cases segment <;>
      · rintro c ⟨⟩
        decide

/-- The text of segments scans to their tokens, by induction on them from the
last one back. -/
theorem written_segments (segments : List Segment) :
    Written (segments.flatMap Segment.chars) (segments.flatMap Segment.tokens) := by
  induction segments with
  | nil => exact .nil
  | cons segment segments ih =>
    have hclose : Written (']' :: segments.flatMap Segment.chars)
        (bracketToken ']' :: segments.flatMap Segment.tokens) := written_bracket (by decide) ih
    have hloose : Loose (']' :: segments.flatMap Segment.chars) :=
      loose_cons (separates_bracket (by decide))
    rw [List.flatMap_cons, List.flatMap_cons]
    cases segment with
    | member name known =>
      have hname := written_word_before known.1 (head_segments segments) ih
      exact written_dot (Parser.not_isDigit_of_isIdentifier known.1) hname
    | position digits written fits =>
      have hdigits := Written.cons written.1 (scan_digits written) hloose hclose
      simpa [Segment.chars, Segment.tokens] using @written_bracket _ '[' _ (by decide) hdigits
    | key q body name writes =>
      have hscan := writes.scan
      rw [String.ofList_toList] at hscan
      have hkey := Written.cons (List.cons_ne_nil _ _) hscan hloose hclose
      simpa [Segment.chars, Segment.tokens] using @written_bracket _ '[' _ (by decide) hkey

/-- The text of a path scans to the tokens of its head and of its segments. -/
theorem written (p : Path) :
    Written p.text.toList (wordToken p.head :: p.segments.flatMap Segment.tokens) := by
  rw [text, String.toList_ofList]
  exact written_word_before p.known.1 (head_segments p.segments) (written_segments p.segments)

end Text

/-! ## The tree -/

section Tree

open BindingLang.Parser

/-- A name is not called by the segments behind it. -/
theorem head_tokens (segments : List Segment) :
    ∀ t ∈ (segments.flatMap Segment.tokens).head?, t.isSymbol .grouper "(" = false := by
  cases segments with
  | nil => simp
  | cons segment segments =>
    cases segment <;>
      · rintro t ⟨⟩
        decide

/-- Digits that 64 bits hold write an integer. -/
theorem ofDigits?_digits {digits : List Char} (h : IsDigits digits)
    (fits : (Binary64.digitsValue digits : Int) ≤ Integer.greatest) :
    Literal.ofDigits? "" (String.ofList digits) = some (.integer (Segment.number digits)) := by
  have hfits : Integer.fits (Binary64.digitsValue digits) = true := by
    rw [Integer.fits, Bool.and_eq_true]
    exact ⟨decide_eq_true (by unfold Integer.least; omega), decide_eq_true fits⟩
  have hsign : Binary64.splitSign digits = (false, digits) := @splitSign_signText false _ h
  have hread := readInt64?_eq hsign h
  rw [signedWhole, if_neg Bool.false_ne_true, Integer.ofInt?, if_pos hfits] at hread
  rw [Literal.ofDigits?, String.empty_append, String.toList_ofList, hread]
  rfl

/-- The key of an index, a constant of one token. -/
theorem run_key {t : Token} {value : Literal} (kind : t.kind ≠ .operator)
    (reads : Constant [t] value) (us : List Token) :
    Run Expr.builder .expression (t :: bracketToken ']' :: us) (.node (.literal value))
      (bracketToken ']' :: us) :=
  run_expression_of_primary kind (.constant reads) (ends_cons (Or.inr (Or.inr (by decide))))

/-- Segments are taken one by one, and each puts a node on top of the tree so
far. -/
theorem run_segments (segments : List Segment) (left : Expr) :
    Run Expr.builder (.climb left 0) (segments.flatMap Segment.tokens)
      (.node (segments.foldl Segment.node left)) [] := by
  induction segments generalizing left with
  | nil => exact ends_nil.stop left 0
  | cons segment segments ih =>
    have htail := ih (segment.node left)
    rw [List.flatMap_cons]
    cases segment with
    | member name known =>
      have hname := run_name known (head_tokens segments)
      exact .getter rfl (.atom (wordToken_kind_ne name) hname) rfl htail
    | position digits written fits =>
      have hkey := run_key (t := ⟨.integer, String.ofList digits, 0⟩) (by simp)
        (.integer rfl (ofDigits?_digits written fits)) (segments.flatMap Segment.tokens)
      exact .index (by decide) hkey (by decide) htail
    | key q body name writes =>
      have hkey := run_key (t := ⟨.string, name, 0⟩) (by simp) (.string rfl)
        (segments.flatMap Segment.tokens)
      exact .index (by decide) hkey (by decide) htail

/-- The tokens of a path run to its tree. -/
theorem run (p : Path) :
    Run Expr.builder .expression (wordToken p.head :: p.segments.flatMap Segment.tokens)
      (.node p.tree) [] :=
  .whole (.atom (wordToken_kind_ne p.head) (run_name p.known (head_tokens p.segments)))
    (run_segments p.segments (.id p.head))

theorem parse_text (p : Path) : Expr.parse p.text = .ok p.tree := by
  refine parse_eq_ok_iff.mpr ?_
  rw [p.written.stream_eq]
  exact ⟨rfl, p.run⟩

end Tree

/-! ## The value -/

section Value

variable {σ : Type} (host : Host σ) (scope : Scope)

/-- A segment is read from the value of what stands before it. -/
theorem eval_node (receiver : Expr) (segment : Segment) :
    (segment.node receiver).eval host scope =
      receiver.eval host scope >>= fun value => EvalM.ofExcept (segment.read value) := by
  cases segment with
  | member name known => simp only [Segment.node, Expr.eval, Segment.read]
  | position digits written fits =>
    simp only [Segment.node, Expr.eval, Segment.read, pure_bind, Value.ofLiteral]
  | key q body name writes =>
    simp only [Segment.node, Expr.eval, Segment.read, pure_bind, Value.ofLiteral]

theorem ofExcept_bind {α β : Type} (result : Except EvalError α) (f : α → Except EvalError β) :
    (EvalM.ofExcept result >>= fun a => EvalM.ofExcept (f a) : EvalM σ β) =
      EvalM.ofExcept (result >>= f) := by
  cases result <;> rfl

theorem eval_segments (segments : List Segment) (receiver : Expr) :
    (segments.foldl Segment.node receiver).eval host scope =
      receiver.eval host scope >>= fun value => EvalM.ofExcept (readAll segments value) := by
  induction segments generalizing receiver with
  | nil => exact (bind_pure _).symm
  | cons segment segments ih =>
    calc ((segment :: segments).foldl Segment.node receiver).eval host scope
        = (segment.node receiver).eval host scope >>= fun value =>
            EvalM.ofExcept (readAll segments value) := ih (segment.node receiver)
      _ = receiver.eval host scope >>= fun value => EvalM.ofExcept (segment.read value) >>=
            fun value => EvalM.ofExcept (readAll segments value) := by
          rw [eval_node, bind_assoc]
      _ = receiver.eval host scope >>= fun value =>
            EvalM.ofExcept (readAll (segment :: segments) value) := by
          simp only [ofExcept_bind]
          rfl

/-- A path has the value that it reads, and does not concern the host. -/
theorem eval_tree (p : Path) : p.tree.eval host scope = EvalM.ofExcept (p.read scope) := by
  rw [tree, eval_segments]
  simp only [Expr.eval, pure_bind]
  rfl

end Value

/-! ## Failures -/

section Failure

/-- A text as the key of an index reads the member of that name. -/
theorem index_string (receiver : Value) (name : String) :
    receiver.index (.string name) = receiver.member name := by
  cases receiver <;> rfl

theorem text_number {digits : List Char}
    (fits : (Binary64.digitsValue digits : Int) ≤ Integer.greatest) :
    (Value.integer (Segment.number digits)).text = toString (Binary64.digitsValue digits) := by
  have hvalue : (Segment.number digits).toInt = Binary64.digitsValue digits := by
    unfold Integer.greatest at fits
    exact Int64.toInt_ofInt_of_le (by omega) (by omega)
  rw [Value.text, hvalue]
  rfl

/-- A member is read of everything but what is absent. -/
theorem member_eq_error_iff {value : Value} {name : String} {error : EvalError} :
    value.member name = .error error ↔
      value.isAbsent = true ∧ error = .accessError name value.typeName := by
  cases value <;> simp [Value.member, Value.isAbsent, eq_comm]

/-- Under a number, too. -/
theorem index_integer_eq_error_iff {value : Value} {n : Int64} {error : EvalError} :
    value.index (.integer n) = .error error ↔
      value.isAbsent = true ∧ error = .accessError (Value.integer n).text value.typeName := by
  have hmember := @member_eq_error_iff value (Value.integer n).text error
  unfold Value.index
  split
  · simp [Value.isAbsent]
  · rename_i s position hs
    unfold Value.charAt
    simp [Value.isAbsent]
  · exact hmember

theorem read_eq_error_iff {value : Value} {segment : Segment} {error : EvalError} :
    segment.read value = .error error ↔
      value.isAbsent = true ∧ error = .accessError segment.property value.typeName := by
  cases segment with
  | member name known => exact member_eq_error_iff
  | position digits written fits =>
    rw [Segment.read, index_integer_eq_error_iff, text_number fits]
    rfl
  | key q body name writes =>
    rw [Segment.read, index_string]
    exact member_eq_error_iff

/-- Segments fail just where one of them is read from what is absent, and those
before it are not. -/
theorem readAll_eq_error_iff {segments : List Segment} {value : Value} {error : EvalError} :
    readAll segments value = .error error ↔
      ∃ before segment after target, segments = before ++ segment :: after ∧
        readAll before value = .ok target ∧ target.isAbsent = true ∧
        error = .accessError segment.property target.typeName := by
  induction segments generalizing value with
  | nil => simp [readAll, pure, Except.pure]
  | cons first segments ih =>
    have hstep (rest : List Segment) :
        readAll (first :: rest) value = first.read value >>= readAll rest := rfl
    rw [hstep]
    constructor
    · intro h
      cases hread : first.read value with
      | error e =>
        rw [hread] at h
        cases h
        exact ⟨[], first, segments, value, rfl, rfl, read_eq_error_iff.mp hread⟩
      | ok next =>
        rw [hread] at h
        obtain ⟨before, segment, after, target, hsplit, hbefore, habsent⟩ := ih.mp h
        refine ⟨first :: before, segment, after, target, ?_, ?_, habsent⟩
        · rw [hsplit, List.cons_append]
        · show first.read value >>= readAll before = _
          rw [hread]
          exact hbefore
    · rintro ⟨before, segment, after, target, hsplit, hbefore, habsent⟩
      cases before with
      | nil =>
        cases hbefore
        obtain ⟨rfl, -⟩ := List.cons_eq_cons.mp hsplit
        rw [read_eq_error_iff.mpr habsent]
        rfl
      | cons other before =>
        obtain ⟨rfl, hrest⟩ := List.cons_eq_cons.mp hsplit
        change first.read value >>= readAll before = _ at hbefore
        cases hread : first.read value with
        | error e =>
          rw [hread] at hbefore
          cases hbefore
        | ok next =>
          rw [hread] at hbefore
          exact ih.mpr ⟨before, segment, after, target, hrest, hbefore, habsent⟩

end Failure

/-- A name is a path without segments. -/
def ofName (x : String) (known : Expr.IsName x) : Path := ⟨x, known, []⟩

/-- A name is a member of `this`. -/
def ofMember (x : String) (known : Expr.IsName x) : Path := ⟨"this", by decide, [.member x known]⟩

/-- A path parses, and its value is what reading its segments in order comes to,
in every host and scope; the first segment that is read from what is absent ends
it. A member and the index under its name are one, and so are a name and the
member of `this`. -/
theorem parse_eval_eq_read :
    (∀ p : Path, ∃ e, Expr.parse p.text = .ok e ∧ ∀ {σ : Type} (host : Host σ) (scope : Scope),
      e.eval host scope = EvalM.ofExcept (p.read scope)) ∧
    (∀ (p : Path) (scope : Scope) (error : EvalError), p.read scope = .error error ↔
      ∃ before segment after target, p.segments = before ++ segment :: after ∧
        readAll before (p.start scope) = .ok target ∧ target.isAbsent = true ∧
        error = .accessError segment.property target.typeName) ∧
    (∀ (receiver : Value) (name : String),
      receiver.index (.string name) = receiver.member name) ∧
    ∀ x : String, Expr.IsName x → x ≠ "this" →
      ∃ e e', Expr.parse ("this." ++ x) = .ok e ∧ Expr.parse x = .ok e' ∧
        ∀ {σ : Type} (host : Host σ) (scope : Scope), e.eval host scope = e'.eval host scope := by
  refine ⟨fun p => ⟨p.tree, p.parse_text, fun host scope => p.eval_tree host scope⟩,
    fun p scope error => readAll_eq_error_iff, index_string, ?_⟩
  intro x known hthis
  have hmember := (ofMember x known).parse_text
  have hname := (ofName x known).parse_text
  have htext : (ofMember x known).text = "this." ++ x := by
    simp [ofMember, text, Segment.chars, ← String.toList_inj]
  have htext' : (ofName x known).text = x := by
    simp [ofName, text]
  rw [htext] at hmember
  rw [htext'] at hname
  refine ⟨_, _, hmember, hname, fun host scope => ?_⟩
  rw [eval_tree, eval_tree]
  -- Reading the member of the scope is the lookup of the name.
  have hread : (ofMember x known).read scope = .ok (scope.lookup x) := rfl
  have hstart : (ofName x known).start scope = scope.lookup x := if_neg hthis
  have hread' : (ofName x known).read scope = .ok (scope.lookup x) := congrArg Except.ok hstart
  rw [hread, hread']

theorem isName_a : Expr.IsName "a" := by decide

theorem isName_b : Expr.IsName "b" := by decide

theorem isDigits_seven : IsDigits ['0', '7'] := ⟨by decide, forall_mem_of_all (by decide)⟩

theorem seven_le_greatest : (Binary64.digitsValue ['0', '7'] : Int) ≤ Integer.greatest := by decide

theorem inQuotes_apostrophe : InQuotes .single "it\\'s".toList "it's".toList :=
  .plain (by decide) (by decide) (.plain (by decide) (by decide)
    (.escape (.plain (by decide) (by decide) .nil)))

/-- The path `a.b[07]['it\'s']`. -/
def sample : Path :=
  ⟨"a", isName_a, [.member "b" isName_b, .position ['0', '7'] isDigits_seven seven_le_greatest,
    .key .single _ "it's" inQuotes_apostrophe]⟩

/-- A scope where `a.b` is a list of one item. -/
def sampleScope : Scope := Scope.root 0 [("a", .object [("b", .array [.null])])]

/-- There is no eighth item, so the index under a text has nothing to be read
from. -/
theorem parse_eval_eq_read_sample :
    (∃ e, Expr.parse "a.b[07]['it\\'s']" = .ok e ∧ ∀ {σ : Type} (host : Host σ),
      e.eval host sampleScope = EvalM.ofExcept (.error (.accessError "it's" "undefined"))) ∧
    Expr.IsName "a" ∧ "a" ≠ "this" ∧
    ∃ e e', Expr.parse "this.a" = .ok e ∧ Expr.parse "a" = .ok e' ∧
      ∀ {σ : Type} (host : Host σ) (scope : Scope), e.eval host scope = e'.eval host scope := by
  obtain ⟨heval, hfails, -, hthis⟩ := parse_eval_eq_read
  have htext : sample.text = "a.b[07]['it\\'s']" := by decide
  obtain ⟨e, hparse, hvalue⟩ := heval sample
  have hread : sample.read sampleScope = .error (.accessError "it's" "undefined") :=
    (hfails sample sampleScope _).mpr ⟨sample.segments.take 2, sample.segments[2], [], .undefined,
      rfl, rfl, rfl, rfl⟩
  rw [htext] at hparse
  refine ⟨⟨e, hparse, fun host => ?_⟩, isName_a, by decide, hthis "a" isName_a (by decide)⟩
  rw [hvalue, hread]

end Path

end BindingLang
