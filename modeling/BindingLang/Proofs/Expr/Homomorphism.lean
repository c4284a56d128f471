import BindingLang.Expr.Builder
import Mathlib.Data.List.GetD
/-!
  Homomorphisms of builders: maps between nodes that every constructor respects.

  A builder is used in two ways: a parser makes its calls, or they are made by
  hand. A `Call` is one constructor call made by hand; its operands are any nodes
  that calls before it have made, so a node may be used twice or not at all.
  `Call.performAll` carries out a sequence of calls. It may repeat the keys of a
  map, leave out the argument list of a call, and split any node as what stands
  after a dot.

  What is proved:
    1. `Formula.hom_builder` — wrapping a tree is a homomorphism from the plain
       builder to that of formulas.
    2. `Builder.Hom.perform`, `Builder.Hom.performAll` — a homomorphism takes
       the answer of one call, and of a whole sequence of calls, to the answer
       of the other builder.
-/

namespace BindingLang

variable {M N : Type}

/-- What stands after a dot, with the nodes of its arguments replaced. -/
def Member.map (f : M → N) : Member M → Member N
  | .name word => .name word
  | .call method arguments => .call method (arguments.map f)

/-- Whether every constructor of `C` makes of the images of some nodes the image
of what `B` makes of them, and refuses what `B` refuses. -/
structure Builder.Hom (B : Builder M) (C : Builder N) (f : M → N) : Prop where
  empty : C.empty = f B.empty
  literal : ∀ value, C.literal value = f (B.literal value)
  id : ∀ name, C.id name = f (B.id name)
  unary : ∀ operator child, C.unary operator (f child) = f (B.unary operator child)
  binary : ∀ left operator right,
    C.binary (f left) operator (f right) = f (B.binary left operator right)
  getter : ∀ receiver name, C.getter (f receiver) name = f (B.getter receiver name)
  invoke : ∀ receiver method arguments,
    C.invoke (f receiver) method (arguments.map (List.map f)) =
      (B.invoke receiver method arguments).map f
  paren : ∀ inner, C.paren (f inner) = f (B.paren inner)
  index : ∀ receiver argument, C.index (f receiver) (f argument) = f (B.index receiver argument)
  ternary : ∀ condition whenTrue whenFalse,
    C.ternary (f condition) (f whenTrue) (f whenFalse) = f (B.ternary condition whenTrue whenFalse)
  map : ∀ entries : List (String × M),
    C.map (entries.map (Prod.map (fun key => key) f)) = f (B.map entries)
  list : ∀ items, C.list (items.map f) = f (B.list items)
  member : ∀ node, C.member (f node) = (B.member node).map (Member.map f)

namespace Formula

/-- The trees of formulas are the trees themselves. -/
theorem map_expr_map_mk (nodes : List Expr) : (nodes.map mk).map expr = nodes := by
  rw [List.map_map]
  exact List.map_id nodes

/-- Wrapping a tree as a formula is a homomorphism. -/
theorem hom_builder : Expr.builder.Hom builder mk where
  empty := rfl
  literal _ := rfl
  id _ := rfl
  unary _ _ := rfl
  binary _ _ _ := rfl
  getter _ _ := rfl
  invoke receiver method arguments := by
    cases arguments with
    | none => rfl
    | some nodes => simp only [builder, Option.map_some, map_expr_map_mk]
  paren _ := rfl
  index _ _ := rfl
  ternary _ _ _ := rfl
  map entries := by
    have unwrapped : (entries.map (Prod.map (fun key => key) mk)).map
        (fun entry => (entry.1, entry.2.expr)) = entries := by
      rw [List.map_map]
      exact List.map_id entries
    simp only [builder, unwrapped]
  list nodes := by simp only [builder, map_expr_map_mk]
  member node := by
    simp only [builder]
    rcases Expr.builder.member node with kind | ⟨name⟩ | ⟨method, arguments⟩ <;> rfl

end Formula

/-- A call of a constructor. A number stands for the node at that place among
those made before, and for the empty node where there is none. -/
inductive Call where
  | empty
  | literal (value : Literal)
  | id (name : String)
  | unary (operator : String) (child : Nat)
  | binary (left : Nat) (operator : String) (right : Nat)
  | getter (receiver : Nat) (name : String)
  | invoke (receiver : Nat) (method : Option String) (arguments : Option (List Nat))
  | paren (inner : Nat)
  | index (receiver argument : Nat)
  | ternary (condition whenTrue whenFalse : Nat)
  | map (entries : List (String × Nat))
  | list (items : List Nat)
  | member (node : Nat)

/-- What a constructor answers: a node, or the error it refuses with; and of the
node after a dot, its parts, or the kind of node that has none. -/
inductive Answer (N : Type) where
  | node (made : N)
  | refused (e : ParseError)
  | member (parts : Member N)
  | noMember (kind : String)

namespace Answer

/-- The answer with the nodes in it replaced. -/
def map (f : M → N) : Answer M → Answer N
  | .node made => .node (f made)
  | .refused e => .refused e
  | .member parts => .member (parts.map f)
  | .noMember kind => .noMember kind

/-- The nodes that an answer brings: one made, or the arguments split off. -/
def nodes : Answer N → List N
  | .node made => [made]
  | .member (.call _ arguments) => arguments
  | _ => []

/-- The answer of a constructor that may refuse. -/
def ofInvoke : Except ParseError N → Answer N
  | .ok made => .node made
  | .error e => .refused e

/-- The answer to the split of a node. -/
def ofMember : Except String (Member N) → Answer N
  | .ok parts => .member parts
  | .error kind => .noMember kind

theorem nodes_map (f : M → N) (answer : Answer M) : (answer.map f).nodes = answer.nodes.map f := by
  rcases answer with made | e | (⟨name⟩ | ⟨method, arguments⟩) | kind <;> rfl

theorem ofInvoke_map (f : M → N) (result : Except ParseError M) :
    ofInvoke (result.map f) = (ofInvoke result).map f := by
  cases result <;> rfl

theorem ofMember_map (f : M → N) (result : Except String (Member M)) :
    ofMember (result.map (Member.map f)) = (ofMember result).map f := by
  cases result <;> rfl

end Answer

namespace Call

/-- The node at a place among those made. -/
def operand (B : Builder N) (made : List N) (place : Nat) : N := made.getD place B.empty

/-- The answer of `B` to a call, after the nodes made before it. -/
def perform (B : Builder N) (made : List N) : Call → Answer N
  | .empty => .node B.empty
  | .literal value => .node (B.literal value)
  | .id name => .node (B.id name)
  | .unary operator child => .node (B.unary operator (operand B made child))
  | .binary left operator right =>
    .node (B.binary (operand B made left) operator (operand B made right))
  | .getter receiver name => .node (B.getter (operand B made receiver) name)
  | .invoke receiver method arguments =>
    .ofInvoke (B.invoke (operand B made receiver) method
      (arguments.map (List.map (operand B made))))
  | .paren inner => .node (B.paren (operand B made inner))
  | .index receiver argument =>
    .node (B.index (operand B made receiver) (operand B made argument))
  | .ternary condition whenTrue whenFalse =>
    .node (B.ternary (operand B made condition) (operand B made whenTrue)
      (operand B made whenFalse))
  | .map entries => .node (B.map (entries.map (Prod.map (fun key => key) (operand B made))))
  | .list items => .node (B.list (items.map (operand B made)))
  | .member node => .ofMember (B.member (operand B made node))

/-- The answers of `B` to calls made one after the other. The nodes of each
answer are there for the calls after it. -/
def performAll (B : Builder N) : List N → List Call → List (Answer N)
  | _, [] => []
  | made, call :: calls =>
    let answer := call.perform B made
    answer :: performAll B (made ++ answer.nodes) calls

end Call

namespace Builder.Hom

variable {B : Builder M} {C : Builder N} {f : M → N}

theorem operand (h : B.Hom C f) (made : List M) (place : Nat) :
    Call.operand C (made.map f) place = f (Call.operand B made place) := by
  rw [Call.operand, Call.operand, h.empty]
  exact List.getD_map ..

theorem operands (h : B.Hom C f) (made : List M) (places : List Nat) :
    places.map (Call.operand C (made.map f)) = (places.map (Call.operand B made)).map f := by
  rw [List.map_map]
  exact List.map_congr_left fun place _ => h.operand made place

/-- One call is answered alike. -/
theorem perform (h : B.Hom C f) (made : List M) (call : Call) :
    call.perform C (made.map f) = (call.perform B made).map f := by
  cases call with
  | invoke receiver method arguments =>
    have lists : arguments.map (List.map (Call.operand C (made.map f))) =
        (arguments.map (List.map (Call.operand B made))).map (List.map f) := by
      rw [Option.map_map]
      exact congrArg (Option.map · arguments) (funext (h.operands made))
    rw [Call.perform, Call.perform, h.operand, lists, h.invoke, Answer.ofInvoke_map]
  | map entries =>
    have bound : entries.map (Prod.map (fun key => key) (Call.operand C (made.map f))) =
        (entries.map (Prod.map (fun key => key) (Call.operand B made))).map
          (Prod.map (fun key => key) f) := by
      rw [List.map_map]
      exact List.map_congr_left fun entry _ => Prod.ext rfl (h.operand made entry.2)
    rw [Call.perform, Call.perform, bound, h.map, Answer.map]
  | list items => rw [Call.perform, Call.perform, h.operands, h.list, Answer.map]
  | member node => rw [Call.perform, Call.perform, h.operand, h.member, Answer.ofMember_map]
  | _ =>
    simp only [Call.perform, Answer.map, h.operand, h.empty, h.literal, h.id, h.unary, h.binary,
      h.getter, h.paren, h.index, h.ternary]

/-- A sequence of calls is answered alike. -/
theorem performAll (h : B.Hom C f) (calls : List Call) (made : List M) :
    Call.performAll C (made.map f) calls = (Call.performAll B made calls).map (Answer.map f) := by
  induction calls generalizing made with
  | nil => rfl
  | cons call calls ih =>
    rw [Call.performAll, Call.performAll, h.perform, Answer.nodes_map, ← List.map_append, ih,
      List.map_cons]

end Builder.Hom

/-- A call without an argument list is refused, and a map made by hand keeps
both entries of a key. -/
example : Call.performAll Formula.builder []
    [.id "f", .invoke 0 none none, .map [("k", 0), ("k", 0)]] =
      [.node ⟨.id "f"⟩, .refused .invalidArguments,
        .node ⟨.map [("k", .id "f"), ("k", .id "f")]⟩] := rfl

end BindingLang
