import SqlLowering.Expr.Basic

/-!
# Translation rules and their registry

A rule answers a method call with a native expression in its place, declines it, or aborts. Rules
come in modules, one for each database extension, and a registry holds modules in the order they
were added, at most one under each key. A call is offered to the rules in module order and, inside a
module, in rule order; the first answer that does not decline stands.
-/

namespace SqlLowering

/-- What becomes of a call. -/
inductive Outcome where
  | replaced (e : Expr)
  | declined
  | aborted (reason : String)
deriving Inhabited

abbrev Rule := MethodCall → Outcome

/-- The rules of one database extension. -/
structure TranslationModule where
  /-- The name under which a registry keeps the module. -/
  key : String
  /-- A short description for the configuration log. -/
  logFragment : String
  rules : List Rule
deriving Inhabited

/-- The answer of the first rule that does not decline. -/
def firstAnswer (call : MethodCall) : List Rule → Outcome
  | [] => .declined
  | rule :: rest =>
    match rule call with
    | .declined => firstAnswer call rest
    | answer => answer

/-- Modules in the order they were added. -/
structure Registry where
  modules : List TranslationModule
deriving Inhabited

namespace Registry

def empty : Registry :=
  ⟨[]⟩

def contains (r : Registry) (key : String) : Bool :=
  r.modules.any fun m => m.key == key

/-- Adds a module at the end, unless there is one under its key; says whether it was added. -/
def add (r : Registry) (m : TranslationModule) : Bool × Registry :=
  if r.contains m.key then (false, r) else (true, ⟨r.modules ++ [m]⟩)

/-- The rules in the order they are asked. -/
def rules (r : Registry) : List Rule :=
  r.modules.flatMap TranslationModule.rules

def ruleCount (r : Registry) : Nat :=
  r.rules.length

/-- The answer of the registry to a call. -/
def translate (r : Registry) (call : MethodCall) : Outcome :=
  firstAnswer call r.rules

end Registry

end SqlLowering
