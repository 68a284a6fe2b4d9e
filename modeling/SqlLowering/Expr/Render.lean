import SqlLowering.Expr.Basic

/-!
# SQL text of expressions

Operators and casts stand in parentheses of their own, so the text needs no precedence. A method
call has no native form and is shown as it is written in the host language. A cast shows its store
type once it is resolved and its target type before.
-/

namespace SqlLowering

namespace Expr

mutual

def render : Expr → String
  | column name _ => name
  | literal value => value.render
  | methodCall t m r as =>
    renderReceiver t r ++ "." ++ m ++ "(" ++ Text.joinWith ", " (renderList as) ++ ")"
  | function name as => name ++ "(" ++ Text.joinWith ", " (renderList as) ++ ")"
  | binary o l r => "(" ++ l.render ++ " " ++ o ++ " " ++ r.render ++ ")"
  | cast _ (some d) e => "CAST(" ++ e.render ++ " AS " ++ d.storeType ++ ")"
  | cast t none e => "CAST(" ++ e.render ++ " AS " ++ t.title ++ ")"
  | index a is _ => a.render ++ renderSubscripts is

/-- What stands before the point: the receiver, or the declaring type of a static call. -/
def renderReceiver (declaringType : ValueType) : Option Expr → String
  | none => declaringType.title
  | some e => e.render

def renderList : List Expr → List String
  | [] => []
  | e :: es => e.render :: renderList es

/-- Each subscript between brackets of its own. -/
def renderSubscripts : List Expr → String
  | [] => ""
  | e :: es => "[" ++ e.render ++ "]" ++ renderSubscripts es

end

end Expr

/-- The text of a call, as messages show it. -/
def MethodCall.render (call : MethodCall) : String :=
  call.toExpr.render

end SqlLowering
