import Mathlib.Data.List.Forall2
import SqlLowering.Expr.Children

/-!
# Expressions as trees

An expression keeps its operands in options and lists, so the induction that comes with its type
speaks of three kinds of things at once. `Expr.induct` is the usual one: what holds of a node
whenever it holds of the node's children holds of every expression. The functions that run through
a tree are brought to match: each value of an option or a list of operands is the one that the
operands give one by one, and the calls of an expression contain those of its children.
`Expr.NodeOf` says what the nodes of an expression are, and `Expr.nodes` lists them.

A method call takes its operands from two places. `forall₂_operands` relates the operands of two
calls as one list.
-/

namespace SqlLowering

namespace Expr

/-- What holds of a node whenever it holds of its children holds of every expression. -/
@[elab_as_elim, induction_eliminator]
theorem induct {motive : Expr → Prop}
    (column : ∀ name type, motive (.column name type))
    (literal : ∀ value, motive (.literal value))
    (methodCall : ∀ t m receiver args, (∀ x ∈ receiver, motive x) → (∀ x ∈ args, motive x) →
      motive (.methodCall t m receiver args))
    (function : ∀ name args, (∀ x ∈ args, motive x) → motive (.function name args))
    (binary : ∀ operator left right, motive left → motive right →
      motive (.binary operator left right))
    (cast : ∀ target storeType operand, motive operand → motive (.cast target storeType operand))
    (index : ∀ array subscripts origin, motive array → (∀ x ∈ subscripts, motive x) →
      motive (.index array subscripts origin))
    (e : Expr) : motive e := by
  refine @Expr.rec motive (fun receiver => ∀ x ∈ receiver, motive x)
    (fun es => ∀ x ∈ es, motive x) column literal methodCall function binary cast index
    ?_ ?_ ?_ ?_ e
  · intro x hx
    cases hx
  · intro e he x hx
    rw [Option.mem_some_iff] at hx
    exact hx ▸ he
  · intro x hx
    cases hx
  · intro e es he hes x hx
    rw [List.mem_cons] at hx
    rcases hx with rfl | hx
    · exact he
    · exact hes x hx

/-- The same, by the list of children. -/
theorem induct_children {motive : Expr → Prop}
    (h : ∀ e : Expr, (∀ child ∈ e.children, motive child) → motive e) (e : Expr) : motive e := by
  induction e with
  | column name type => exact h _ fun child hchild => by cases hchild
  | literal value => exact h _ fun child hchild => by cases hchild
  | methodCall t m receiver args hreceiver hargs =>
      refine h _ fun child hchild => ?_
      rw [children, List.mem_append, Option.mem_toList] at hchild
      exact hchild.elim (hreceiver child) (hargs child)
  | function name args hargs => exact h _ hargs
  | binary operator left right hleft hright =>
      exact h _ (List.forall_mem_cons.2 ⟨hleft, List.forall_mem_singleton.2 hright⟩)
  | cast target storeType operand hoperand => exact h _ (List.forall_mem_singleton.2 hoperand)
  | index array subscripts origin harray hsubscripts =>
      exact h _ (List.forall_mem_cons.2 ⟨harray, hsubscripts⟩)

/-- A node of an expression: the expression itself, or a node of one of its children. -/
inductive NodeOf (x : Expr) : Expr → Prop
  | root : NodeOf x x
  | inside {child e : Expr} : child ∈ e.children → NodeOf x child → NodeOf x e

mutual

/-- The nodes of an expression, each before those of its children and these in order. -/
def nodes : Expr → List Expr
  | column name type => [column name type]
  | literal value => [literal value]
  | methodCall t m r as => methodCall t m r as :: (nodesOption r ++ nodesList as)
  | function name as => function name as :: nodesList as
  | binary operator l r => binary operator l r :: (l.nodes ++ r.nodes)
  | cast target storeType x => cast target storeType x :: x.nodes
  | index a is origin => index a is origin :: (a.nodes ++ nodesList is)

def nodesOption : Option Expr → List Expr
  | none => []
  | some e => e.nodes

def nodesList : List Expr → List Expr
  | [] => []
  | e :: es => e.nodes ++ nodesList es

end

theorem nodesList_eq (es : List Expr) : nodesList es = es.flatMap nodes := by
  induction es with
  | nil => rfl
  | cons e es ih => rw [nodesList, ih, List.flatMap_cons]

theorem nodes_eq (e : Expr) : e.nodes = e :: e.children.flatMap nodes := by
  cases e with
  | column name type => rfl
  | literal value => rfl
  | methodCall t m r as =>
      rw [nodes, children, List.flatMap_append, nodesList_eq]
      cases r with
      | none => rfl
      | some r => rw [nodesOption, Option.toList_some, List.flatMap_singleton]
  | function name as => rw [nodes, children, nodesList_eq]
  | binary operator l r => rw [nodes, children, List.flatMap_cons, List.flatMap_singleton]
  | cast target storeType x => rw [nodes, children, List.flatMap_singleton]
  | index a is origin => rw [nodes, children, List.flatMap_cons, nodesList_eq]

theorem mem_nodes_iff {x e : Expr} : x ∈ e.nodes ↔ x.NodeOf e := by
  induction e using induct_children with
  | h e ih =>
      rw [nodes_eq, List.mem_cons, List.mem_flatMap]
      constructor
      · rintro (rfl | ⟨child, hchild, hx⟩)
        · exact .root
        · exact .inside hchild ((ih child hchild).1 hx)
      · rintro (_ | ⟨hchild, hx⟩)
        · exact Or.inl rfl
        · exact Or.inr ⟨_, hchild, (ih _ hchild).2 hx⟩

/-! ## Method calls -/

theorem methodCallsOption_eq (receiver : Option Expr) :
    methodCallsOption receiver = receiver.toList.flatMap methodCalls := by
  cases receiver with
  | none => rfl
  | some e => simp [methodCallsOption]

theorem methodCallsList_eq (es : List Expr) : methodCallsList es = es.flatMap methodCalls := by
  induction es with
  | nil => rfl
  | cons e es ih => rw [methodCallsList, ih, List.flatMap_cons]

theorem methodCalls_methodCall (t : ValueType) (m : String) (receiver : Option Expr)
    (args : List Expr) : (methodCall t m receiver args).methodCalls =
      ⟨t, m, receiver, args⟩ :: (receiver.toList ++ args).flatMap methodCalls := by
  rw [methodCalls, methodCallsOption_eq, methodCallsList_eq, List.flatMap_append]

theorem methodCalls_subset_of_mem_children {x e : Expr} (h : x ∈ e.children) :
    x.methodCalls ⊆ e.methodCalls := by
  intro call hcall
  have hmem : call ∈ e.children.flatMap methodCalls := List.mem_flatMap.2 ⟨x, h, hcall⟩
  cases e with
  | column name type => cases hmem
  | literal value => cases hmem
  | methodCall t m receiver args =>
      rw [methodCalls_methodCall]
      exact List.mem_cons_of_mem _ hmem
  | function name args =>
      rw [methodCalls, methodCallsList_eq]
      exact hmem
  | binary operator left right =>
      rw [children, List.flatMap_cons, List.flatMap_singleton] at hmem
      exact hmem
  | cast target storeType operand =>
      rw [children, List.flatMap_singleton] at hmem
      exact hmem
  | index array subscripts origin =>
      rw [children, List.flatMap_cons] at hmem
      rw [methodCalls, methodCallsList_eq]
      exact hmem

/-- The calls of an expression are its nodes that are calls. -/
theorem NodeOf.mem_methodCalls {call : MethodCall} {e : Expr} (h : call.toExpr.NodeOf e) :
    call ∈ e.methodCalls := by
  induction h with
  | root => simp [MethodCall.toExpr, methodCalls]
  | inside hchild _ ih => exact methodCalls_subset_of_mem_children hchild ih

end Expr

/-! ## Operands in two places -/

theorem forall₂_operands {R : Expr → Expr → Prop} {r r' : Option Expr} {as as' : List Expr}
    (hr : Option.Rel R r r') (has : List.Forall₂ R as as') :
    List.Forall₂ R (r.toList ++ as) (r'.toList ++ as') := by
  cases hr with
  | none => exact has
  | some h => exact List.Forall₂.cons h has

end SqlLowering
