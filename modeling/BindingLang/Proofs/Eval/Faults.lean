import BindingLang.Proofs.Eval.Dependencies
import BindingLang.Proofs.Value.Integers
/-!
  Faults: what operators fail for.

  An operator fails for its own text, or for the kinds of its operands, and two of
  them for a divisor that is zero. A division fails for zero only among integers; as
  soon as a float is divided or divides, it has a result. Apart from these, only a
  function that a filter calls can fail.

  What is proved:
    1. `ofSymbol?_eq_some_iff`, `ofSymbol?_eq_none_iff` — which texts are operators.
    2. `combine_eq_error_iff`, `compare_eq_error_iff`, `negate_eq_error_iff` — what
       arithmetic, comparison and the change of a sign fail for.
    3. `operator_fails_iff` — an operator fails just for these, and with the error
       that says so.
-/

namespace BindingLang

/-! ## The texts of operators -/

/-- Whether what is found for a text, if anything, has that text. -/
def HasText {α : Type} (symbol : α → String) (text : String) (found : Option α) : Prop :=
  ∀ operator, found = some operator → text = symbol operator

namespace HasText

variable {α : Type} {symbol : α → String} {text : String}

theorem none' : HasText symbol text none := nofun

theorem ite' {other : String} {operator : α} {found : Option α} (hother : symbol operator = other)
    (hfound : HasText symbol text found) :
    HasText symbol text (if text = other then some operator else found) := by
  split
  · rename_i htext
    rintro _ ⟨⟩
    exact htext.trans hother.symm
  · exact hfound

end HasText

/-- A text is looked up in vain just if it is no symbol, where each text that is found is
a symbol, and all symbols are found. -/
theorem eq_none_iff_not_mem {α : Type} {find : String → Option α} {symbol : α → String}
    {symbols : List String} {text : String}
    (hfind : ∀ operator, find text = some operator → text = symbol operator)
    (hsymbol : ∀ operator, symbol operator ∈ symbols) (hall : ∀ text ∈ symbols, find text ≠ none) :
    find text = none ↔ text ∉ symbols := by
  refine ⟨fun hnone hmem => hall text hmem hnone, fun hnot => ?_⟩
  cases h : find text with
  | none => rfl
  | some operator => exact absurd (hfind operator h ▸ hsymbol operator) hnot

/-- The text of an operation. -/
def Arithmetic.symbol : Arithmetic → String
  | .add => "+"
  | .subtract => "-"
  | .multiply => "*"
  | .divide => "/"
  | .remainder => "%"

namespace BinaryOperator

/-- The text of an operator. -/
def symbol : BinaryOperator → String
  | .arithmetic operation => operation.symbol
  | .compare comparison => comparison.symbol
  | .equal => "=="
  | .unequal => "!="
  | .identical => "==="
  | .different => "!=="
  | .and => "&&"
  | .or => "||"
  | .filter => "|"

/-- The texts that are operators between two operands. -/
def symbols : List String :=
  ["+", "-", "*", "/", "%", "==", "!=", "===", "!==", "<", "<=", ">", ">=", "||", "&&", "|"]

variable {text : String}

theorem ofSymbol?_symbol (operator : BinaryOperator) :
    ofSymbol? operator.symbol = some operator := by
  cases operator with
  | arithmetic operation => cases operation <;> rfl
  | compare comparison => cases comparison <;> rfl
  | _ => rfl

theorem ofSymbol?_eq_some_iff {operator : BinaryOperator} :
    ofSymbol? text = some operator ↔ text = operator.symbol := by
  refine ⟨fun h => ?_, fun h => h ▸ ofSymbol?_symbol operator⟩
  have hall : HasText symbol text (ofSymbol? text) := by
    unfold ofSymbol?
    iterate 16 refine HasText.ite' rfl ?_
    exact HasText.none'
  exact hall operator h

theorem symbol_mem_symbols (operator : BinaryOperator) : operator.symbol ∈ symbols := by
  cases operator with
  | arithmetic operation => cases operation <;> decide
  | compare comparison => cases comparison <;> decide
  | _ => decide

theorem ofSymbol?_eq_none_iff : ofSymbol? text = none ↔ text ∉ symbols :=
  eq_none_iff_not_mem (fun _ => ofSymbol?_eq_some_iff.mp) symbol_mem_symbols (by decide)

end BinaryOperator

namespace UnaryOperator

/-- The text of an operator. -/
def symbol : UnaryOperator → String
  | .plus => "+"
  | .minus => "-"
  | .not => "!"

/-- The texts that are operators before an operand. -/
def symbols : List String := ["+", "-", "!"]

variable {text : String}

theorem ofSymbol?_eq_some_iff {operator : UnaryOperator} :
    ofSymbol? text = some operator ↔ text = operator.symbol := by
  constructor
  · intro h
    have hall : HasText symbol text (ofSymbol? text) := by
      unfold ofSymbol?
      iterate 3 refine HasText.ite' rfl ?_
      exact HasText.none'
    exact hall operator h
  · rintro rfl
    cases operator <;> rfl

theorem symbol_mem_symbols (operator : UnaryOperator) : operator.symbol ∈ symbols := by
  cases operator <;> decide

theorem ofSymbol?_eq_none_iff : ofSymbol? text = none ↔ text ∉ symbols :=
  eq_none_iff_not_mem (fun _ => ofSymbol?_eq_some_iff.mp) symbol_mem_symbols (by decide)

end UnaryOperator

namespace Value

/-! ## The kinds of operands -/

/-- The kinds of what is a number in arithmetic. -/
def numericKinds : List String := ["integer", "float", "boolean", "null"]

/-- The kinds of what is no scalar, and is there. -/
def compoundKinds : List String := ["array", "object", "function", "scope"]

variable {v left right : Value} {e : EvalError}

theorem number?_eq_none_iff : v.number? = none ↔ v.typeName ∉ numericKinds := by
  cases v <;> simp [number?, typeName, numericKinds]

theorem number?_eq_integer_iff {n : Int64} :
    v.number? = some (.integer n) ↔ v.integer? = some n.toInt := by
  cases v with
  | null => simp [number?, integer?, ← Int64.toInt_inj]
  | boolean b => cases b <;> simp [number?, integer?, ← Int64.toInt_inj]
  | integer m => simp [number?, integer?, ← Int64.toInt_inj]
  | _ => simp [number?, integer?]

theorem number?_eq_some_integer_iff :
    (∃ n, v.number? = some (.integer n)) ↔ ∃ a, v.integer? = some a := by
  constructor
  · rintro ⟨n, hn⟩
    exact ⟨n.toInt, number?_eq_integer_iff.mp hn⟩
  · rintro ⟨a, ha⟩
    obtain ⟨n, -, hn⟩ := number?_of_integer? ha
    exact ⟨n, hn⟩

theorem isOrdered_eq_false_iff : v.isOrdered = false ↔ v.typeName ∈ compoundKinds := by
  cases v <;> simp [isOrdered, typeName, compoundKinds]

theorem isText_iff : v.isText = true ↔ v.typeName = "string" := by
  cases v <;> simp [isText, typeName]

/-! ## What operations fail for -/

/-- On numbers, only the division of an integer by zero fails. -/
theorem numbers_eq_error_iff {operation : Arithmetic} {a b : Number} :
    operation.numbers a b = .error e ↔ operation.divides = true ∧ (∃ m, a = .integer m) ∧
      b = .integer 0 ∧ e = .divisionByZero := by
  cases a with
  | float x => cases b <;> simp [Arithmetic.numbers]
  | integer m =>
    cases b with
    | float y => simp [Arithmetic.numbers]
    | integer n =>
      rw [Arithmetic.numbers, Arithmetic.integers]
      split
      · rename_i hzero
        rw [Bool.and_eq_true, beq_iff_eq] at hzero
        simp [hzero.1, hzero.2, eq_comm]
      · rename_i hzero
        rw [Bool.and_eq_true, beq_iff_eq] at hzero
        constructor
        · intro h
          split at h <;> cases h
        · rintro ⟨hdivides, -, hn, -⟩
          cases hn
          exact absurd ⟨hdivides, rfl⟩ hzero

/-- Arithmetic fails for operands that are no numbers, and for the division of an integer
by zero. -/
theorem combine_eq_error_iff {operation : Arithmetic} :
    combine operation left right = .error e ↔
      ((left.typeName ∉ numericKinds ∨ right.typeName ∉ numericKinds) ∧
        e = .typeError (.cannotCombine operation left.typeName right.typeName)) ∨
      (operation.divides = true ∧ (∃ a, left.integer? = some a) ∧ right.integer? = some 0 ∧
        e = .divisionByZero) := by
  have hzero : right.integer? = some 0 ↔ right.number? = some (.integer 0) :=
    (@number?_eq_integer_iff right 0).symm
  rw [← number?_eq_none_iff, ← number?_eq_none_iff, ← number?_eq_some_integer_iff, hzero, combine]
  cases left.number? with
  | none => simp [@eq_comm _ e]
  | some a =>
    cases right.number? with
    | none => simp [@eq_comm _ e]
    | some b => simp [numbers_eq_error_iff]

/-- So does the sum, but none next to a text. -/
theorem add_eq_error_iff : left.add right = .error e ↔
    (left.typeName ≠ "string" ∧ right.typeName ≠ "string") ∧
      combine .add left right = .error e := by
  rw [Ne, Ne, ← isText_iff, ← isText_iff, ← not_or, ← Bool.or_eq_true, add]
  split
  · rename_i htext
    simp [htext]
  · rename_i htext
    simp [htext]

/-- Comparison fails for compound operands. -/
theorem compare_eq_error_iff {c : Comparison} :
    compare c left right = .error e ↔
      (left.typeName ∈ compoundKinds ∨ right.typeName ∈ compoundKinds) ∧
        e = .typeError (.cannotCompare c left.typeName right.typeName) := by
  rw [← isOrdered_eq_false_iff, ← isOrdered_eq_false_iff, ← Bool.and_eq_false_iff]
  unfold compare
  split
  · simp [isOrdered]
  · simp [isOrdered]
  · split
    · rename_i hordered
      simp [hordered]
    · rename_i hordered
      simp [Bool.not_eq_true _ ▸ hordered, eq_comm]

/-- The sign cannot be changed of what is compound. -/
theorem negate_eq_error_iff :
    v.negate = .error e ↔ v.typeName ∈ compoundKinds ∧
      e = .typeError (.cannotNegate v.typeName) := by
  cases v with
  | array | object | function | scope =>
    simp [negate, compoundKinds, typeName, eq_comm]
  | integer n =>
    rw [negate]
    split <;> simp [compoundKinds, typeName]
  | _ => simp [negate, compoundKinds, typeName]

end Value

/-! ## What operators fail for -/

/-- The errors of an operator between two operands. -/
inductive BinaryFault (symbol : String) (left right : Value) : EvalError → Prop where
  /-- The text is no operator. -/
  | unknown (text : symbol ∉ BinaryOperator.symbols) :
      BinaryFault symbol left right (.unknownOperator symbol)
  /-- An operand of arithmetic is no number; next to a text `+` is no arithmetic. -/
  | notNumbers {operation : Arithmetic} (text : symbol = operation.symbol)
      (sum : symbol = "+" → left.typeName ≠ "string" ∧ right.typeName ≠ "string")
      (kinds : left.typeName ∉ Value.numericKinds ∨ right.typeName ∉ Value.numericKinds) :
      BinaryFault symbol left right
        (.typeError (.cannotCombine operation left.typeName right.typeName))
  /-- Zero divides an integer. -/
  | zeroDivisor (text : symbol = "/" ∨ symbol = "%") {a : Int} (dividend : left.integer? = some a)
      (divisor : right.integer? = some 0) : BinaryFault symbol left right .divisionByZero
  /-- An operand of a comparison is compound. -/
  | notOrdered {comparison : Comparison} (text : symbol = comparison.symbol)
      (kinds : left.typeName ∈ Value.compoundKinds ∨ right.typeName ∈ Value.compoundKinds) :
      BinaryFault symbol left right
        (.typeError (.cannotCompare comparison left.typeName right.typeName))
  /-- The filter is no function. -/
  | notFunction (text : symbol = "|") (kind : right.typeName ≠ "function") :
      BinaryFault symbol left right (.notCallable ("filter (" ++ right.typeName ++ ")"))

/-- The errors of an operator before its operand. -/
inductive UnaryFault (symbol : String) (operand : Value) : EvalError → Prop where
  /-- The text is no operator. -/
  | unknown (text : symbol ∉ UnaryOperator.symbols) :
      UnaryFault symbol operand (.unknownOperator symbol)
  /-- The sign of what is compound is changed. -/
  | notNegated (text : symbol = "-") (kind : operand.typeName ∈ Value.compoundKinds) :
      UnaryFault symbol operand (.typeError (.cannotNegate operand.typeName))

section Operators

variable {σ : Type} (host : Host σ) (state : σ) {symbol : String} {left right : Value}
  {e : EvalError}

theorem fault_of_combine {operation : Arithmetic}
    (hsum : operation.symbol = "+" → left.typeName ≠ "string" ∧ right.typeName ≠ "string")
    (h : Value.combine operation left right = .error e) :
    BinaryFault operation.symbol left right e := by
  obtain ⟨hkinds, rfl⟩ | ⟨hdivides, ⟨a, ha⟩, hzero, rfl⟩ := Value.combine_eq_error_iff.mp h
  · exact .notNumbers rfl hsum hkinds
  · have htext : operation.symbol = "/" ∨ operation.symbol = "%" := by
      cases operation with
      | divide => exact .inl rfl
      | remainder => exact .inr rfl
      | _ => cases hdivides
    exact .zeroDivisor htext ha hzero

/-- An operator fails for nothing but its faults and what a filter fails for. -/
theorem fault_of_applyOperator {operator : BinaryOperator}
    (h : (host.applyOperator operator left right).result state = .error e) :
    BinaryFault operator.symbol left right e ∨
      ∃ f, operator = .filter ∧ right = .function f ∧
        (host.call f .undefined [left]).result state = .error e := by
  cases operator with
  | arithmetic operation =>
    refine .inl ?_
    cases operation with
    | add =>
      obtain ⟨htext, hcombine⟩ := Value.add_eq_error_iff.mp h
      exact fault_of_combine (fun _ => htext) hcombine
    | _ => exact fault_of_combine (fun hsum => absurd hsum (by decide)) h
  | compare comparison =>
    obtain ⟨hkinds, rfl⟩ := Value.compare_eq_error_iff.mp h
    exact .inl (.notOrdered rfl hkinds)
  | filter =>
    cases right with
    | function f => exact .inr ⟨f, rfl, rfl, h⟩
    | _ => cases h; exact .inl (.notFunction rfl (by simp [Value.typeName]))
  | _ => cases h

/-- An operator that has a fault fails for it. -/
theorem BinaryFault.result_eq (h : BinaryFault symbol left right e) :
    (host.applyBinary symbol left right).result state = .error e := by
  cases h with
  | unknown text =>
    rw [Host.applyBinary, BinaryOperator.ofSymbol?_eq_none_iff.mpr text]
    rfl
  | @notNumbers operation text sum kinds =>
    subst text
    have hcombine : Value.combine operation left right =
        .error (.typeError (.cannotCombine operation left.typeName right.typeName)) :=
      Value.combine_eq_error_iff.mpr (.inl ⟨kinds, rfl⟩)
    cases operation with
    | add => exact Value.add_eq_error_iff.mpr ⟨sum rfl, hcombine⟩
    | _ => exact hcombine
  | zeroDivisor text dividend divisor =>
    obtain rfl | rfl := text
    · exact Value.combine_eq_error_iff.mpr (.inr ⟨rfl, ⟨_, dividend⟩, divisor, rfl⟩)
    · exact Value.combine_eq_error_iff.mpr (.inr ⟨rfl, ⟨_, dividend⟩, divisor, rfl⟩)
  | @notOrdered comparison text kinds =>
    subst text
    cases comparison <;> exact Value.compare_eq_error_iff.mpr ⟨kinds, rfl⟩
  | notFunction text kind =>
    subst text
    cases right with
    | function f => exact absurd rfl kind
    | _ => rfl

theorem applyBinary_fails_iff : (host.applyBinary symbol left right).result state = .error e ↔
    BinaryFault symbol left right e ∨
      ∃ f, symbol = "|" ∧ right = .function f ∧
        (host.call f .undefined [left]).result state = .error e := by
  constructor
  · intro h
    rw [Host.applyBinary] at h
    cases hsymbol : BinaryOperator.ofSymbol? symbol with
    | none =>
      rw [hsymbol] at h
      cases h
      exact .inl (.unknown (BinaryOperator.ofSymbol?_eq_none_iff.mp hsymbol))
    | some operator =>
      rw [hsymbol] at h
      rw [BinaryOperator.ofSymbol?_eq_some_iff.mp hsymbol]
      obtain hfault | ⟨f, rfl, hright, hcall⟩ := fault_of_applyOperator host state h
      · exact .inl hfault
      · exact .inr ⟨f, rfl, hright, hcall⟩
  · rintro (hfault | ⟨f, rfl, rfl, hcall⟩)
    · exact hfault.result_eq host state
    · exact hcall

theorem applyUnary_fails_iff {operand : Value} :
    Value.applyUnary symbol operand = .error e ↔ UnaryFault symbol operand e := by
  constructor
  · intro h
    rw [Value.applyUnary] at h
    cases hsymbol : UnaryOperator.ofSymbol? symbol with
    | none =>
      rw [hsymbol] at h
      cases h
      exact .unknown (UnaryOperator.ofSymbol?_eq_none_iff.mp hsymbol)
    | some operator =>
      rw [hsymbol] at h
      cases operator with
      | minus =>
        obtain ⟨hkind, rfl⟩ := Value.negate_eq_error_iff.mp h
        exact .notNegated (UnaryOperator.ofSymbol?_eq_some_iff.mp hsymbol) hkind
      | _ => cases h
  · intro h
    cases h with
    | unknown text =>
      rw [Value.applyUnary, UnaryOperator.ofSymbol?_eq_none_iff.mpr text]
    | notNegated text kind =>
      subst text
      exact Value.negate_eq_error_iff.mpr ⟨kind, rfl⟩

/-- An operator between two operands fails just for the faults listed for its text and the
two values, or as the function does that a filter calls; and an operator before an operand
just for the faults listed for it. -/
theorem operator_fails_iff (symbol : String) (left right operand : Value) (e : EvalError) :
    ((host.applyBinary symbol left right).result state = .error e ↔
      BinaryFault symbol left right e ∨
        ∃ f, symbol = "|" ∧ right = .function f ∧
          (host.call f .undefined [left]).result state = .error e) ∧
    (Value.applyUnary symbol operand = .error e ↔ UnaryFault symbol operand e) :=
  ⟨applyBinary_fails_iff host state, applyUnary_fails_iff⟩

end Operators

end BindingLang
