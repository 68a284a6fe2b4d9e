import SqlLowering.Expr.Basic

/-!
# Children of an expression

The direct children of a node are its receiver and arguments, its left and right side, the operand
of a cast, or an array and its subscripts, in this order. They can be listed, and they can be
visited one after the other by a visitor that carries a state, may put another expression in a
child's place, and may stop. After a stop the remaining children stay as they were.
-/

namespace SqlLowering

/-- What a visitor leaves behind: the expression in the visited place, its own new state, and the
reason to stop, if it stops. -/
structure Visit (σ ε α : Type) where
  result : α
  state : σ
  stop : Option ε

namespace Expr

/-- The direct children, in order. -/
def children : Expr → List Expr
  | column _ _ => []
  | literal _ => []
  | methodCall _ _ receiver args => receiver.toList ++ args
  | function _ args => args
  | binary _ left right => [left, right]
  | cast _ _ operand => [operand]
  | index array subscripts _ => array :: subscripts

variable {σ ε : Type}

/-- Visits the expressions of a list until one stops. -/
def visitList (visit : σ → Expr → Visit σ ε Expr) (s : σ) : List Expr → Visit σ ε (List Expr)
  | [] => ⟨[], s, none⟩
  | e :: es =>
    let head := visit s e
    match head.stop with
    | some reason => ⟨head.result :: es, head.state, some reason⟩
    | none =>
      let tail := visitList visit head.state es
      ⟨head.result :: tail.result, tail.state, tail.stop⟩

/-- Visits one expression and then those of a list. -/
def visitThenList (visit : σ → Expr → Visit σ ε Expr) (s : σ) (first : Expr) (rest : List Expr) :
    Visit σ ε (Expr × List Expr) :=
  let head := visit s first
  match head.stop with
  | some reason => ⟨(head.result, rest), head.state, some reason⟩
  | none =>
    let tail := visitList visit head.state rest
    ⟨(head.result, tail.result), tail.state, tail.stop⟩

/-- Visits one expression and then another. -/
def visitPair (visit : σ → Expr → Visit σ ε Expr) (s : σ) (left right : Expr) :
    Visit σ ε (Expr × Expr) :=
  let head := visit s left
  match head.stop with
  | some reason => ⟨(head.result, right), head.state, some reason⟩
  | none =>
    let tail := visit head.state right
    ⟨(head.result, tail.result), tail.state, tail.stop⟩

/-- Visits the direct children in order; the result is the node with what was left in their
places. -/
def visitChildren (visit : σ → Expr → Visit σ ε Expr) (s : σ) : Expr → Visit σ ε Expr
  | column name type => ⟨column name type, s, none⟩
  | literal value => ⟨literal value, s, none⟩
  | methodCall t m none args =>
    let v := visitList visit s args
    ⟨methodCall t m none v.result, v.state, v.stop⟩
  | methodCall t m (some receiver) args =>
    let v := visitThenList visit s receiver args
    ⟨methodCall t m (some v.result.1) v.result.2, v.state, v.stop⟩
  | function name args =>
    let v := visitList visit s args
    ⟨function name v.result, v.state, v.stop⟩
  | binary operator left right =>
    let v := visitPair visit s left right
    ⟨binary operator v.result.1 v.result.2, v.state, v.stop⟩
  | cast target storeType operand =>
    let v := visit s operand
    ⟨cast target storeType v.result, v.state, v.stop⟩
  | index array subscripts origin =>
    let v := visitThenList visit s array subscripts
    ⟨index v.result.1 v.result.2 origin, v.state, v.stop⟩

end Expr

end SqlLowering
