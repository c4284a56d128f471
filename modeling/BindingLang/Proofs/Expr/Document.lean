import BindingLang.Command.Basic
import BindingLang.Proofs.Json.Same
import BindingLang.Proofs.Parser.WellFormed
import Mathlib
/-!
  Documents of trees: what the tree of a document is.

  The document of a node is an object whose fields are the kind of the node and
  its parts. Constants are written without their kind, and the entries of a map
  as the fields of an object, in the order of their keys; so a document says
  everything about the tree but the order of a map's entries, as long as no key
  is repeated and all floats are finite.

  What is proved:
    1. `same_toJson_iff_fields` — the documents of two nodes are the same just if
       the nodes are of one kind and their fields are the same one by one.
    2. `same_toJson_iff` — the documents of two trees are the same just if the
       trees are, up to the order of entries.
    3. `tree_determines_expr` — so are the documents that the command tells of two
       sources.
-/

namespace BindingLang

/-- Whether two constants are the same, with floats that `R` relates. -/
inductive Literal.Same (R : Float → Float → Prop) : Literal → Literal → Prop where
  | string (s : String) : Same R (.string s) (.string s)
  | integer (n : Int64) : Same R (.integer n) (.integer n)
  | float {x y : Float} (number : R x y) : Same R (.float x) (.float y)
  | boolean (b : Bool) : Same R (.boolean b) (.boolean b)
  | null : Same R .null .null

/-- Whether two trees are the same up to the order of the entries of their maps,
with floats that `R` relates. -/
inductive Expr.Same (R : Float → Float → Prop) : Expr → Expr → Prop where
  | empty : Same R .empty .empty
  | literal {value value' : Literal} (constant : value.Same R value') :
      Same R (.literal value) (.literal value')
  | id (name : String) : Same R (.id name) (.id name)
  | unary (operator : String) {child child' : Expr} (operand : Same R child child') :
      Same R (.unary operator child) (.unary operator child')
  | binary (operator : String) {left left' right right' : Expr} (first : Same R left left')
      (second : Same R right right') :
      Same R (.binary operator left right) (.binary operator left' right')
  | getter {receiver receiver' : Expr} (object : Same R receiver receiver') (name : String) :
      Same R (.getter receiver name) (.getter receiver' name)
  | invoke {receiver receiver' : Expr} (object : Same R receiver receiver')
      (method : Option String) {arguments arguments' : List Expr}
      (each : List.Forall₂ (Same R) arguments arguments') :
      Same R (.invoke receiver method arguments) (.invoke receiver' method arguments')
  | index {receiver receiver' argument argument' : Expr} (object : Same R receiver receiver')
      (key : Same R argument argument') :
      Same R (.index receiver argument) (.index receiver' argument')
  | ternary {condition condition' whenTrue whenTrue' whenFalse whenFalse' : Expr}
      (first : Same R condition condition') (second : Same R whenTrue whenTrue')
      (third : Same R whenFalse whenFalse') :
      Same R (.ternary condition whenTrue whenFalse) (.ternary condition' whenTrue' whenFalse')
  | map {entries entries' arranged : List (String × Expr)} (order : entries'.Perm arranged)
      (each : List.Forall₂ (Entrywise (Same R)) entries arranged) :
      Same R (.map entries) (.map entries')
  | list {items items' : List Expr} (each : List.Forall₂ (Same R) items items') :
      Same R (.list items) (.list items')

namespace Expr

variable {R : Float → Float → Prop} {e e' : Expr}

/-- Whether the document of the node tells all of it: its number is finite, and its
keys are distinct. -/
def Documented : Expr → Prop
  | .literal (.float x) => (Binary64.finite? x).isSome = true
  | .map entries => (entries.map Prod.fst).Nodup
  | _ => True

namespace Same

variable {left left' right right' receiver receiver' argument argument' condition condition'
  whenTrue whenTrue' whenFalse whenFalse' : Expr} {operator operator' name name' : String}

theorem typeName_eq (h : e.Same R e') : e.typeName = e'.typeName := by
  cases h <;> rfl

@[simp] theorem literal_iff {value value' : Literal} :
    Same R (.literal value) (.literal value') ↔ value.Same R value' :=
  ⟨fun h => by cases h; assumption, .literal⟩

@[simp] theorem id_iff : Same R (.id name) (.id name') ↔ name = name' :=
  ⟨fun h => by cases h; rfl, fun h => h ▸ .id name⟩

@[simp] theorem unary_iff :
    Same R (.unary operator e) (.unary operator' e') ↔ operator = operator' ∧ e.Same R e' :=
  ⟨fun h => by cases h; exact ⟨rfl, by assumption⟩, fun ⟨ho, h⟩ => ho ▸ .unary operator h⟩

@[simp] theorem binary_iff :
    Same R (.binary operator left right) (.binary operator' left' right') ↔
      operator = operator' ∧ left.Same R left' ∧ right.Same R right' := by
  constructor
  · rintro ⟨⟩
    exact ⟨rfl, by assumption, by assumption⟩
  · rintro ⟨rfl, first, second⟩
    exact .binary operator first second

@[simp] theorem getter_iff : Same R (.getter receiver name) (.getter receiver' name') ↔
    receiver.Same R receiver' ∧ name = name' :=
  ⟨fun h => by cases h; exact ⟨by assumption, rfl⟩, fun ⟨h, hname⟩ => hname ▸ .getter h name⟩

@[simp] theorem invoke_iff {method method' : Option String} {arguments arguments' : List Expr} :
    Same R (.invoke receiver method arguments) (.invoke receiver' method' arguments') ↔
      receiver.Same R receiver' ∧ method = method' ∧
        List.Forall₂ (Same R) arguments arguments' := by
  constructor
  · rintro ⟨⟩
    exact ⟨by assumption, rfl, by assumption⟩
  · rintro ⟨object, rfl, each⟩
    exact .invoke object method each

@[simp] theorem index_iff : Same R (.index receiver argument) (.index receiver' argument') ↔
    receiver.Same R receiver' ∧ argument.Same R argument' :=
  ⟨fun h => by cases h; exact ⟨by assumption, by assumption⟩,
    fun ⟨object, key⟩ => .index object key⟩

@[simp] theorem ternary_iff :
    Same R (.ternary condition whenTrue whenFalse) (.ternary condition' whenTrue' whenFalse') ↔
      condition.Same R condition' ∧ whenTrue.Same R whenTrue' ∧ whenFalse.Same R whenFalse' := by
  constructor
  · rintro ⟨⟩
    exact ⟨by assumption, by assumption, by assumption⟩
  · rintro ⟨first, second, third⟩
    exact .ternary first second third

@[simp] theorem map_iff {entries entries' : List (String × Expr)} :
    Same R (.map entries) (.map entries') ↔
      ∃ arranged, entries'.Perm arranged ∧ List.Forall₂ (Entrywise (Same R)) entries arranged :=
  ⟨fun h => by cases h; exact ⟨_, by assumption, by assumption⟩,
    fun ⟨_, order, each⟩ => .map order each⟩

@[simp] theorem list_iff {items items' : List Expr} :
    Same R (.list items) (.list items') ↔ List.Forall₂ (Same R) items items' :=
  ⟨fun h => by cases h; assumption, .list⟩

end Same

/-! ## Fields -/

/-- The parts of a node as fields of its document. -/
def fields : Expr → List (String × Json)
  | .empty => []
  | .literal value => [("value", value.toJson)]
  | .id name => [("value", .string name)]
  | .unary operator child => [("operator", .string operator), ("child", child.toJson)]
  | .binary operator left right =>
    [("operator", .string operator), ("left", left.toJson), ("right", right.toJson)]
  | .getter receiver name => [("receiver", receiver.toJson), ("name", .string name)]
  | .invoke receiver method arguments =>
    [("receiver", receiver.toJson), ("method", (method.map Json.string).getD .null),
      ("arguments", .array (itemsToJson arguments))]
  | .index receiver argument => [("receiver", receiver.toJson), ("argument", argument.toJson)]
  | .ternary condition whenTrue whenFalse =>
    [("condition", condition.toJson), ("trueExpr", whenTrue.toJson),
      ("falseExpr", whenFalse.toJson)]
  | .map entries => [("entries", Json.ofFields (entriesToJson entries))]
  | .list items => [("items", .array (itemsToJson items))]

/-- The document of a node has its kind as a field, and its parts. -/
theorem toJson_eq_ofFields (e : Expr) :
    e.toJson = Json.ofFields (("type", .string e.typeName) :: e.fields) := by
  cases e <;> rfl

theorem nodup_keys (e : Expr) :
    ((("type", Json.string e.typeName) :: e.fields).map Prod.fst).Nodup := by
  cases e <;> simp [fields]

/-- Nodes of one kind have the same fields. -/
theorem keys_of_typeName (h : e.typeName = e'.typeName) :
    e.fields.map Prod.fst = e'.fields.map Prod.fst := by
  cases e <;> cases e' <;> first | rfl | simp [typeName] at h

/-- The documents of two nodes are the same just if the nodes are of one kind, and
have the same fields. -/
theorem same_toJson_iff_fields : Json.Same R e.toJson e'.toJson ↔
    e.typeName = e'.typeName ∧ List.Forall₂ (Entrywise (Json.Same R)) e.fields e'.fields := by
  rw [toJson_eq_ofFields, toJson_eq_ofFields]
  have with_type (htype : e.typeName = e'.typeName) :
      Json.Same R (Json.ofFields (("type", .string e.typeName) :: e.fields))
          (Json.ofFields (("type", .string e'.typeName) :: e'.fields)) ↔
        List.Forall₂ (Entrywise (Json.Same R)) e.fields e'.fields := by
    have hkeys : (("type", Json.string e.typeName) :: e.fields).map Prod.fst =
        (("type", Json.string e'.typeName) :: e'.fields).map Prod.fst :=
      congrArg ("type" :: ·) (keys_of_typeName htype)
    rw [Json.same_ofFields_iff_of_keys hkeys (nodup_keys e'), List.forall₂_cons, htype,
      Entrywise.mk_iff]
    exact and_iff_right (.string _)
  constructor
  · intro h
    obtain ⟨arranged, horder, heach⟩ :=
      (Json.same_ofFields_iff (nodup_keys e) (nodup_keys e')).mp h
    -- The field `type` has its counterpart in the field of that name.
    have htype : e.typeName = e'.typeName := by
      cases heach with
      | cons first rest =>
        cases first with
        | mk value =>
          cases value with
          | string name =>
            have hmem := horder.symm.subset List.mem_cons_self
            obtain heq | hmem := List.mem_cons.mp hmem
            · exact Json.string.inj (Prod.mk.inj heq).2
            · exact absurd (List.mem_map_of_mem hmem) (List.nodup_cons.mp (nodup_keys e')).1
    exact ⟨htype, (with_type htype).mp h⟩
  · rintro ⟨htype, hfields⟩
    exact (with_type htype).mpr hfields

/-! ## Parts -/

@[simp] theorem same_string_iff {s t : String} : Json.Same R (.string s) (.string t) ↔ s = t :=
  ⟨fun h => by cases h; rfl, fun h => h ▸ .string s⟩

/-- A method is told by its name, and that there is none by null. -/
@[simp] theorem same_method_iff {method method' : Option String} :
    Json.Same R ((method.map Json.string).getD .null) ((method'.map Json.string).getD .null) ↔
      method = method' := by
  cases method with
  | none =>
    cases method' with
    | none => exact iff_of_true .null rfl
    | some name' => exact iff_of_false nofun nofun
  | some name =>
    cases method' with
    | none => exact iff_of_false nofun nofun
    | some name' => exact same_string_iff.trans Option.some_inj.symm

/-- A finite constant is known by its scalar. -/
theorem same_constant_iff {value value' : Literal} (h : (literal value).Documented)
    (h' : (literal value').Documented) :
    Json.Same R value.toJson value'.toJson ↔ value.Same R value' := by
  have float (x : Float) (hx : (literal (.float x)).Documented) :
      (Literal.float x).toJson = .float x := if_pos hx
  constructor
  · intro hsame
    cases value with
    | float x =>
      rw [float x h] at hsame
      cases value' with
      | float y => rw [float y h'] at hsame; cases hsame; exact .float (by assumption)
      | _ => cases hsame
    | string s | integer n | boolean b | null =>
      cases value' with
      | float y => rw [float y h'] at hsame; cases hsame
      | _ => cases hsame <;> constructor
  · intro hsame
    cases hsame with
    | float number => rw [float _ h, float _ h']; exact .float number
    | string | integer | boolean | null => constructor

theorem itemsToJson_eq (items : List Expr) : itemsToJson items = items.map toJson := by
  induction items with
  | nil => rfl
  | cons item items ih => rw [itemsToJson, ih, List.map_cons]

theorem entriesToJson_eq (entries : List (String × Expr)) :
    entriesToJson entries = entries.map fun entry => (entry.1, entry.2.toJson) := by
  induction entries with
  | nil => rfl
  | cons entry entries ih =>
    obtain ⟨key, node⟩ := entry
    rw [entriesToJson, ih, List.map_cons]

/-- The images of two lists are related one by one if the members are. -/
theorem forall₂_map_iff {α β γ δ : Type} {f : α → γ} {g : β → δ} {S : γ → δ → Prop}
    {T : α → β → Prop} {as : List α} {bs : List β}
    (h : ∀ a ∈ as, ∀ b ∈ bs, S (f a) (g b) ↔ T a b) :
    List.Forall₂ S (as.map f) (bs.map g) ↔ List.Forall₂ T as bs := by
  rw [List.forall₂_map_left_iff, List.forall₂_map_right_iff, List.forall₂_iff_zip,
    List.forall₂_iff_zip]
  refine and_congr_right fun _ => ?_
  constructor
  · intro hall a b hab
    obtain ⟨ha, hb⟩ := List.of_mem_zip hab
    exact (h a ha b hb).mp (hall hab)
  · intro hall a b hab
    obtain ⟨ha, hb⟩ := List.of_mem_zip hab
    exact (h a ha b hb).mpr (hall hab)

theorem same_items_iff {items items' : List Expr}
    (h : ∀ item ∈ items, ∀ item' ∈ items',
      Json.Same R item.toJson item'.toJson ↔ item.Same R item') :
    Json.Same R (.array (itemsToJson items)) (.array (itemsToJson items')) ↔
      List.Forall₂ (Same R) items items' := by
  rw [Json.same_array_iff, itemsToJson_eq, itemsToJson_eq]
  exact forall₂_map_iff h

/-- The order of a map's entries is not told. -/
theorem same_entries_iff {entries entries' : List (String × Expr)}
    (hnodup : (entries.map Prod.fst).Nodup) (hnodup' : (entries'.map Prod.fst).Nodup)
    (h : ∀ entry ∈ entries, ∀ entry' ∈ entries',
      Json.Same R entry.2.toJson entry'.2.toJson ↔ entry.2.Same R entry'.2) :
    Json.Same R (Json.ofFields (entriesToJson entries)) (Json.ofFields (entriesToJson entries')) ↔
      ∃ arranged, entries'.Perm arranged ∧ List.Forall₂ (Entrywise (Same R)) entries arranged := by
  have keys (list : List (String × Expr)) :
      (list.map fun entry => (entry.1, entry.2.toJson)).map Prod.fst = list.map Prod.fst := by
    rw [List.map_map]
    rfl
  have each {arranged : List (String × Expr)} (horder : entries'.Perm arranged) :
      List.Forall₂ (Entrywise (Json.Same R)) (entries.map fun entry => (entry.1, entry.2.toJson))
          (arranged.map fun entry => (entry.1, entry.2.toJson)) ↔
        List.Forall₂ (Entrywise (Same R)) entries arranged := by
    refine forall₂_map_iff fun entry he entry' he' => ?_
    have hvalue := h entry he entry' (horder.symm.subset he')
    obtain ⟨key, node⟩ := entry
    obtain ⟨key', node'⟩ := entry'
    constructor
    · rintro ⟨value⟩
      exact .mk (hvalue.mp value)
    · rintro ⟨value⟩
      exact .mk (hvalue.mpr value)
  rw [entriesToJson_eq, entriesToJson_eq,
    Json.same_ofFields_iff (keys entries ▸ hnodup) (keys entries' ▸ hnodup')]
  constructor
  · rintro ⟨documents, horder, heach⟩
    -- An arrangement of the documents is one of the entries.
    have hcomp : Relation.Comp (· = List.map (fun entry => (entry.1, entry.2.toJson)) ·) List.Perm
        documents entries' := by
      rw [List.eq_map_comp_perm]
      exact horder.symm
    obtain ⟨arranged, rfl, harranged⟩ := hcomp
    exact ⟨arranged, harranged.symm, (each harranged.symm).mp heach⟩
  · rintro ⟨arranged, horder, heach⟩
    exact ⟨_, horder.map _, (each horder).mpr heach⟩

/-! ## Trees -/

/-- Trees of different kinds are told apart by that, so only the fields of trees of
one kind are left to compare. -/
theorem same_toJson_iff_of_fields (h : e.typeName = e'.typeName →
    (List.Forall₂ (Entrywise (Json.Same R)) e.fields e'.fields ↔ e.Same R e')) :
    Json.Same R e.toJson e'.toJson ↔ e.Same R e' := by
  rw [same_toJson_iff_fields]
  constructor
  · rintro ⟨htype, hfields⟩
    exact (h htype).mp hfields
  · intro hsame
    exact ⟨hsame.typeName_eq, (h hsame.typeName_eq).mpr hsame⟩

/-- The documents of two trees are the same just if the trees are. -/
theorem same_toJson_iff (h : e.Every Documented) (h' : e'.Every Documented) :
    Json.Same R e.toJson e'.toJson ↔ e.Same R e' := by
  induction e using Expr.induct generalizing e' with
  | empty =>
    refine same_toJson_iff_of_fields fun htype => ?_
    cases e' with
    | empty => exact iff_of_true .nil .empty
    | _ => simp [typeName] at htype
  | literal value =>
    refine same_toJson_iff_of_fields fun htype => ?_
    cases e' with
    | literal value' => simp [fields, same_constant_iff h.self h'.self]
    | _ => simp [typeName] at htype
  | id name =>
    refine same_toJson_iff_of_fields fun htype => ?_
    cases e' with
    | id name' => simp [fields]
    | _ => simp [typeName] at htype
  | unary operator child ih =>
    refine same_toJson_iff_of_fields fun htype => ?_
    cases e' with
    | unary operator' child' =>
      have hchild := ih (every_unary.mp h).2 (every_unary.mp h').2
      simp [fields, hchild]
    | _ => simp [typeName] at htype
  | binary operator left right ihl ihr =>
    refine same_toJson_iff_of_fields fun htype => ?_
    cases e' with
    | binary operator' left' right' =>
      obtain ⟨-, hl, hr⟩ := every_binary.mp h
      obtain ⟨-, hl', hr'⟩ := every_binary.mp h'
      simp [fields, ihl hl hl', ihr hr hr']
    | _ => simp [typeName] at htype
  | getter receiver name ih =>
    refine same_toJson_iff_of_fields fun htype => ?_
    cases e' with
    | getter receiver' name' =>
      have hreceiver := ih (every_getter.mp h).2 (every_getter.mp h').2
      simp [fields, hreceiver]
    | _ => simp [typeName] at htype
  | invoke receiver method arguments ihr iha =>
    refine same_toJson_iff_of_fields fun htype => ?_
    cases e' with
    | invoke receiver' method' arguments' =>
      obtain ⟨-, hr, ha⟩ := every_invoke.mp h
      obtain ⟨-, hr', ha'⟩ := every_invoke.mp h'
      have hitems := same_items_iff fun item hi item' hi' =>
        iha item hi (ha item hi) (ha' item' hi')
      simp [fields, ihr hr hr', hitems]
    | _ => simp [typeName] at htype
  | index receiver argument ihr iha =>
    refine same_toJson_iff_of_fields fun htype => ?_
    cases e' with
    | index receiver' argument' =>
      obtain ⟨-, hr, ha⟩ := every_index.mp h
      obtain ⟨-, hr', ha'⟩ := every_index.mp h'
      simp [fields, ihr hr hr', iha ha ha']
    | _ => simp [typeName] at htype
  | ternary condition whenTrue whenFalse ihc iht ihf =>
    refine same_toJson_iff_of_fields fun htype => ?_
    cases e' with
    | ternary condition' whenTrue' whenFalse' =>
      obtain ⟨-, hc, ht, hf⟩ := every_ternary.mp h
      obtain ⟨-, hc', ht', hf'⟩ := every_ternary.mp h'
      simp [fields, ihc hc hc', iht ht ht', ihf hf hf']
    | _ => simp [typeName] at htype
  | map entries ih =>
    refine same_toJson_iff_of_fields fun htype => ?_
    cases e' with
    | map entries' =>
      obtain ⟨hkeys, hentries⟩ := every_map.mp h
      obtain ⟨hkeys', hentries'⟩ := every_map.mp h'
      have hsame := same_entries_iff hkeys hkeys' fun entry he entry' he' =>
        ih entry he (hentries entry he) (hentries' entry' he')
      simp [fields, hsame]
    | _ => simp [typeName] at htype
  | list items ih =>
    refine same_toJson_iff_of_fields fun htype => ?_
    cases e' with
    | list items' =>
      obtain ⟨-, hitems⟩ := every_list.mp h
      obtain ⟨-, hitems'⟩ := every_list.mp h'
      have hsame := same_items_iff fun item hi item' hi' =>
        ih item hi (hitems item hi) (hitems' item' hi')
      simp [fields, hsame]
    | _ => simp [typeName] at htype

/-- The nodes of a parsed tree are told by its document if its floats are finite. -/
theorem documented_of_parse {source : String} (h : parse source = .ok e)
    (hfinite : ∀ x, .literal (.float x) ∈ e.nodes → (Binary64.finite? x).isSome = true) :
    e.Every Documented := by
  intro node hnode
  have hwell := wellFormed_of_parse h node hnode
  cases node with
  | literal value =>
    cases value with
    | float x => exact hfinite x hnode
    | _ => trivial
  | map entries => exact hwell
  | _ => trivial

/-- The trees that the command tells of two sources, whose floats are finite, are
equal just if the sources parse to one tree, up to the order of a map's entries; and
they are the same, however floats are compared, just if the parsed trees are. -/
theorem tree_determines_expr {source source' : String} (h : parse source = .ok e)
    (h' : parse source' = .ok e')
    (hfinite : ∀ x, .literal (.float x) ∈ e.nodes → (Binary64.finite? x).isSome = true)
    (hfinite' : ∀ x, .literal (.float x) ∈ e'.nodes → (Binary64.finite? x).isSome = true) :
    Command.tree source = .ok e.toJson ∧ Command.tree source' = .ok e'.toJson ∧
      (Command.tree source = Command.tree source' ↔ e.Same Eq e') ∧
      ∀ R, Json.Same R e.toJson e'.toJson ↔ e.Same R e' := by
  have hsame (R : Float → Float → Prop) : Json.Same R e.toJson e'.toJson ↔ e.Same R e' :=
    same_toJson_iff (documented_of_parse h hfinite) (documented_of_parse h' hfinite')
  have htree : Command.tree source = .ok e.toJson := by rw [Command.tree, h]; rfl
  have htree' : Command.tree source' = .ok e'.toJson := by rw [Command.tree, h']; rfl
  refine ⟨htree, htree', ?_, hsame⟩
  rw [htree, htree', Except.ok.injEq, ← Json.same_eq_iff]
  exact hsame Eq

/-- The entries of a map may change places, and the command tells the same tree. -/
theorem tree_determines_expr_rearranged :
    parse "\x7b'a': 0.0, 'b': [f(1)]\x7d" =
        .ok (.map [("a", .literal (.float (Binary64.zero false))),
          ("b", .list [.invoke (.id "f") none [.literal (.integer 1)]])]) ∧
      parse "\x7b'b': [f(1)], 'a': 0.0\x7d" =
        .ok (.map [("b", .list [.invoke (.id "f") none [.literal (.integer 1)]]),
          ("a", .literal (.float (Binary64.zero false)))]) ∧
      (Binary64.finite? (Binary64.zero false)).isSome = true ∧
      Command.tree "\x7b'a': 0.0, 'b': [f(1)]\x7d" =
        Command.tree "\x7b'b': [f(1)], 'a': 0.0\x7d" := by
  have hparse : parse "\x7b'a': 0.0, 'b': [f(1)]\x7d" =
      .ok (.map [("a", .literal (.float (Binary64.zero false))),
        ("b", .list [.invoke (.id "f") none [.literal (.integer 1)]])]) := by cbv
  have hparse' : parse "\x7b'b': [f(1)], 'a': 0.0\x7d" =
      .ok (.map [("b", .list [.invoke (.id "f") none [.literal (.integer 1)]]),
        ("a", .literal (.float (Binary64.zero false)))]) := by cbv
  have hzero : (Binary64.finite? (Binary64.zero false)).isSome = true := rfl
  obtain ⟨-, -, htree, -⟩ := tree_determines_expr hparse hparse'
    (fun x hx => by simp [nodes, nodesOfItems, nodesOfEntries] at hx; exact hx ▸ hzero)
    (fun x hx => by simp [nodes, nodesOfItems, nodesOfEntries] at hx; exact hx ▸ hzero)
  have hlist : Same Eq (.list [.invoke (.id "f") none [.literal (.integer 1)]])
      (.list [.invoke (.id "f") none [.literal (.integer 1)]]) :=
    .list (.cons (.invoke (.id "f") none (.cons (.literal (.integer 1)) .nil)) .nil)
  have hnumber : Same Eq (.literal (.float (Binary64.zero false)))
      (.literal (.float (Binary64.zero false))) := .literal (.float rfl)
  exact ⟨hparse, hparse', hzero,
    htree.mpr (.map (.swap _ _ _) (.cons (.mk hnumber) (.cons (.mk hlist) .nil)))⟩

end Expr

end BindingLang
