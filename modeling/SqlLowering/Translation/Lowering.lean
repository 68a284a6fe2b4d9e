import SqlLowering.Expr.Render
import SqlLowering.Report
import SqlLowering.Settings.Config
import SqlLowering.Subscript
import SqlLowering.Translation.Registry
import SqlLowering.TypeMap.Source

/-!
# Lowering and compilation

Lowering turns an expression into native form from the leaves up: the children of a node are
lowered first, in order, so a rule sees operands that are translated already. A call is offered to
the registry, and its replacement is not lowered again. A zero-based access is shifted to count
from one, and a cast gets the descriptor of its store type, where text without a length of its own
takes the default length of the configuration.

Compilation lowers an expression and renders it. Calls that no rule translates are listed, outermost
first; with strict translation the first of them is an error.

Both may fail, and both may add descriptors to the mapping source, which keeps what was added before
a failure.
-/

namespace SqlLowering

/-- Why an expression has no compiled form. -/
inductive CompileFailure where
  /-- The target of a cast has no store type; the operand is in its lowered form. -/
  | unmapped (target : DataType) (operand : Expr)
  /-- Translation is strict and this call was left. -/
  | untranslated (call : MethodCall)
  /-- A rule aborted. -/
  | aborted (reason : String)

/-- The report of a failure; there is none when a rule aborted. -/
def CompileFailure.report? : CompileFailure → Option Report
  | unmapped target operand =>
    some <| (Report.ofKind .other ("No store type mapping for " ++ target.title)).withField
      "expression" operand.render
  | untranslated call =>
    some <| (Report.ofKind .untranslatable
      ("The method call '" ++ call.render ++ "' could not be translated")).withField
      "method" call.qualifiedName
  | aborted _ => none

/-- A computation that may fail and may add to the mapping source. -/
abbrev Lowering (α : Type) := ExceptT CompileFailure (StateM MappingSource) α

/-- Runs a computation on a mapping source. -/
def Lowering.run {α : Type} (x : Lowering α) (source : MappingSource) :
    Except CompileFailure α × MappingSource :=
  ExceptT.run x source

/-- The target of a cast with the length that applies to it: for text its own if it is positive, or
else the default of the configuration. -/
def Config.castTarget (config : Config) (target : DataType) : DataType :=
  if target.base = .text then
    { target with
      maxLength := (target.maxLength.filter fun n => 0 < n) <|> config.defaultStringLength }
  else target

/-- Asks the mapping source for the store type of a data type. -/
def askMapping (t : DataType) : Lowering (Option MappingSource.Mapping) :=
  modifyGet fun source => source.findMapping t

/-- The cast of a lowered operand, with its store type. -/
def resolveCast (config : Config) (target : DataType) (operand : Expr) : Lowering Expr := do
  let applied := config.castTarget target
  match ← askMapping applied with
  | some mapping => return .cast target (some mapping.descriptor) operand
  | none => throw (.unmapped applied operand)

/-- The answer of the registry to a call, or the call itself. -/
def lowerCall (registry : Registry) (call : MethodCall) : Lowering Expr :=
  match registry.translate call with
  | .replaced e => return e
  | .declined => return call.toExpr
  | .aborted reason => throw (.aborted reason)

namespace Expr

mutual

def lower (registry : Registry) (config : Config) : Expr → Lowering Expr
  | column name type => return column name type
  | literal value => return literal value
  | methodCall t m receiver args => do
    let receiver ← lowerOption registry config receiver
    let args ← lowerList registry config args
    lowerCall registry ⟨t, m, receiver, args⟩
  | function name args => do
    let args ← lowerList registry config args
    return function name args
  | binary operator left right => do
    let left ← left.lower registry config
    let right ← right.lower registry config
    return binary operator left right
  | cast target _ operand => do
    let operand ← operand.lower registry config
    resolveCast config target operand
  | index array subscripts origin => do
    let array ← array.lower registry config
    let subscripts ← lowerList registry config subscripts
    return indexFromOne array subscripts origin

def lowerOption (registry : Registry) (config : Config) : Option Expr → Lowering (Option Expr)
  | none => return none
  | some e => do
    let e ← e.lower registry config
    return some e

def lowerList (registry : Registry) (config : Config) : List Expr → Lowering (List Expr)
  | [] => return []
  | e :: es => do
    let e ← e.lower registry config
    let es ← lowerList registry config es
    return e :: es

end

end Expr

/-- An expression in native form, its SQL text, and the qualified names of the calls left in it. -/
structure Compiled where
  expr : Expr
  sql : String
  untranslated : List String

/-- Whether two compiled expressions are equal, floating-point constants being compared as
numbers. -/
def Compiled.agrees (a b : Compiled) : Bool :=
  a.expr.agrees b.expr && a.sql == b.sql && decide (a.untranslated = b.untranslated)

/-- The compiled form of a lowered expression. -/
def Compiled.ofLowered (config : Config) (e : Expr) : Except CompileFailure Compiled :=
  match config.strictTranslation, e.methodCalls with
  | true, first :: _ => .error (.untranslated first)
  | _, calls => .ok ⟨e, e.render, calls.map MethodCall.qualifiedName⟩

/-- Lowers an expression and renders the result. -/
def compile (registry : Registry) (config : Config) (e : Expr) : Lowering Compiled := do
  let lowered ← e.lower registry config
  Compiled.ofLowered config lowered

end SqlLowering
