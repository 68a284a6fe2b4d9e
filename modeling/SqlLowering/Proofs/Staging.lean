import SqlLowering.Proofs.Sessions
import SqlLowering.Proofs.Shifts

/-!
# Compiling in stages

A compiled expression may be compiled again: in the same session, in another one that has more
modules and another configuration, or as a part of a larger expression. Nothing is lost by it. The
one fact behind this is `lowered_eq_of_lowered`: the native form of an expression under some modules
lowers under more modules just as the expression does, for each rewriting is finished. What a form
made of the operands of a call lowers like the call, as no later module has another form for it; a
call that was left is looked up again; a shifted access counts from one and is not shifted a second
time; and a cast keeps its target, from which its store type is found anew.

Two equalities carry this to whole expressions. Lowering does not read the store types of casts
(`lowered_unresolved`), and expressions that lower alike do so in every context (`lowered_plug`).
-/

namespace SqlLowering

open BundledModule (registry activeForm? activeForm?_mono)

namespace Expr

/-! ## Lowering again -/

/-- **A native form lowers like the expression it was made of**, under more modules and whatever
configuration. -/
theorem lowered_eq_of_lowered {ms ns : List BundledModule} (hsub : ms ⊆ ns)
    {config config' : Config} {e e' : Expr} (h : e.lowered (registry ms) config = .ok e') :
    e.lowered (registry ns) config' = e'.lowered (registry ns) config' := by
  refine lowered_induction
    (P := fun e e' => e.lowered (registry ns) config' = e'.lowered (registry ns) config')
    ?column ?literal ?kept ?translated ?function ?binary ?cast ?index h
  case column =>
    intro name type
    rfl
  case literal =>
    intro value
    rfl
  case kept =>
    intro t m r r' as as' hr has _ _
    rw [lowered, lowered, loweredOption_congr hr, loweredList_congr has]
  case translated =>
    intro t m r as operands form e hoperands _ hform happly
    have hsame := (loweredList_congr hoperands).symm
    exact (lowered_eq_of_apply happly (activeForm?_mono hsub hform) hsame).symm
  case function =>
    intro name as as' has
    rw [lowered, lowered, loweredList_congr has]
  case binary =>
    intro operator l r l' r' hl hr
    rw [lowered, lowered, hl, hr]
  case cast =>
    intro target storeType x x' descriptor hx _
    rw [lowered, lowered, hx]
  case index =>
    intro a a' is is' origin ha his _
    rw [lowered_indexFromOne, lowered, lowered, ha, loweredList_congr his]

/-! ## Store types -/

mutual

/-- The expression without the store types of its casts. -/
def unresolved : Expr → Expr
  | column name type => column name type
  | literal value => literal value
  | methodCall t m receiver args =>
    methodCall t m (unresolvedOption receiver) (unresolvedList args)
  | function name args => function name (unresolvedList args)
  | binary operator left right => binary operator left.unresolved right.unresolved
  | cast target _ operand => cast target none operand.unresolved
  | index array subscripts origin => index array.unresolved (unresolvedList subscripts) origin

def unresolvedOption : Option Expr → Option Expr
  | none => none
  | some e => some e.unresolved

def unresolvedList : List Expr → List Expr
  | [] => []
  | e :: es => e.unresolved :: unresolvedList es

end

theorem option_rel_unresolved {R : Expr → Expr → Prop} {r : Option Expr}
    (h : ∀ x ∈ r, R x.unresolved x) : Option.Rel R (unresolvedOption r) r := by
  cases r with
  | none => exact .none
  | some e => exact .some (h e rfl)

theorem forall₂_unresolved {R : Expr → Expr → Prop} {es : List Expr}
    (h : ∀ x ∈ es, R x.unresolved x) : List.Forall₂ R (unresolvedList es) es := by
  induction es with
  | nil => exact .nil
  | cons e es ih =>
      exact .cons (h e (List.mem_cons_self ..)) (ih fun x hx => h x (List.mem_cons_of_mem e hx))

/-- **Lowering does not read store types.** -/
theorem lowered_unresolved (registry : Registry) (config : Config) (e : Expr) :
    e.unresolved.lowered registry config = e.lowered registry config := by
  induction e with
  | column name type => rfl
  | literal value => rfl
  | methodCall t m r as hr has =>
      rw [unresolved, lowered, lowered, loweredOption_congr (option_rel_unresolved hr),
        loweredList_congr (forall₂_unresolved has)]
  | function name as has =>
      rw [unresolved, lowered, lowered, loweredList_congr (forall₂_unresolved has)]
  | binary operator l r hl hr => rw [unresolved, lowered, lowered, hl, hr]
  | cast target storeType x hx => rw [unresolved, lowered, lowered, hx]
  | index a is origin ha his =>
      rw [unresolved, lowered, lowered, ha, loweredList_congr (forall₂_unresolved his)]

end Expr

/-! ## Contexts -/

/-- An expression with one hole. -/
inductive Context where
  | hole
  | receiver (t : ValueType) (m : String) (inner : Context) (args : List Expr)
  | argument (t : ValueType) (m : String) (receiver : Option Expr) (before : List Expr)
      (inner : Context) (after : List Expr)
  | operand (name : String) (before : List Expr) (inner : Context) (after : List Expr)
  | left (operator : String) (inner : Context) (right : Expr)
  | right (operator : String) (left : Expr) (inner : Context)
  | cast (target : DataType) (storeType : Option TypeDescriptor) (inner : Context)
  | array (inner : Context) (subscripts : List Expr) (origin : Origin)
  | subscript (array : Expr) (before : List Expr) (inner : Context) (after : List Expr)
      (origin : Origin)

namespace Context

def plug : Context → Expr → Expr
  | hole, e => e
  | receiver t m inner args, e => .methodCall t m (some (inner.plug e)) args
  | argument t m r before inner after, e => .methodCall t m r (before ++ inner.plug e :: after)
  | operand name before inner after, e => .function name (before ++ inner.plug e :: after)
  | left operator inner r, e => .binary operator (inner.plug e) r
  | right operator l inner, e => .binary operator l (inner.plug e)
  | cast target storeType inner, e => .cast target storeType (inner.plug e)
  | array inner subscripts origin, e => .index (inner.plug e) subscripts origin
  | subscript a before inner after origin, e => .index a (before ++ inner.plug e :: after) origin

variable {registry : Registry} {config : Config}

theorem loweredList_middle (before after : List Expr) {e e' : Expr}
    (h : e.lowered registry config = e'.lowered registry config) :
    Expr.loweredList registry config (before ++ e :: after) =
      Expr.loweredList registry config (before ++ e' :: after) := by
  apply Expr.loweredList_congr
  induction before with
  | nil => exact .cons h (List.forall₂_same.2 fun _ _ => rfl)
  | cons x before ih => exact .cons rfl ih

/-- **Expressions that lower alike do so in every context.** -/
theorem lowered_plug (C : Context) {e e' : Expr}
    (h : e.lowered registry config = e'.lowered registry config) :
    (C.plug e).lowered registry config = (C.plug e').lowered registry config := by
  induction C with
  | hole => exact h
  | receiver t m inner args ih =>
      rw [plug, plug, Expr.lowered, Expr.lowered, Expr.loweredOption, Expr.loweredOption, ih]
  | argument t m r before inner after ih =>
      rw [plug, plug, Expr.lowered, Expr.lowered, loweredList_middle before after ih]
  | operand name before inner after ih =>
      rw [plug, plug, Expr.lowered, Expr.lowered, loweredList_middle before after ih]
  | left operator inner r ih => rw [plug, plug, Expr.lowered, Expr.lowered, ih]
  | right operator l inner ih => rw [plug, plug, Expr.lowered, Expr.lowered, ih]
  | cast target storeType inner ih => rw [plug, plug, Expr.lowered, Expr.lowered, ih]
  | array inner subscripts origin ih => rw [plug, plug, Expr.lowered, Expr.lowered, ih]
  | subscript a before inner after origin ih =>
      rw [plug, plug, Expr.lowered, Expr.lowered, loweredList_middle before after ih]

end Context

/-! ## Sessions -/

theorem compiled_congr {registry : Registry} {config : Config} {e e' : Expr}
    (h : e.lowered registry config = e'.lowered registry config) :
    compiled registry config e = compiled registry config e' := by
  unfold compiled
  rw [h]

namespace Session

variable {s t : Session} {d d₁ d₂ : Depot} {ms ns : List BundledModule} {e : Expr}
  {out : Compiled}

/-- **Compilation in stages.** What one session compiled, another one that has the same modules or
more compiles to what it makes of the source, or fails with the same error. -/
theorem compile_compiled (hsub : ms ⊆ ns) (hs : s.Uses d ms) (ht₁ : t.Uses d₁ ns)
    (ht₂ : t.Uses d₂ ns) (hout : (s.compile d e).1 = .ok out) :
    (t.compile d₁ out.expr).1 = (t.compile d₂ e).1 := by
  rw [hs.compile_fst] at hout
  rw [ht₁.compile_fst, ht₂.compile_fst]
  exact compiled_congr (Expr.lowered_eq_of_lowered hsub (compiled_eq_ok hout).1).symm

/-- The call that the first session leaves is translated by the second, which is strict and bounds
the text. -/
theorem compile_compiled_textOfPart :
    ∃ out : Compiled, ((ofModules [.geometry] ⟨"", false, none⟩).compile
        (.ofModules [.geometry]) .textOfPart).1 = .ok out ∧
      out.untranslated = ["DbFunctions.Levenshtein"] ∧
      ((ofModules [.fuzzyMatch, .geometry] ⟨"", true, some 20⟩).compile
          (.ofModules [.fuzzyMatch, .geometry]) out.expr).1 =
        ((ofModules [.fuzzyMatch, .geometry] ⟨"", true, some 20⟩).compile
          (.ofModules [.fuzzyMatch, .geometry]) .textOfPart).1 := by
  refine ⟨_, rfl, rfl, ?_⟩
  exact compile_compiled (by decide) (ofModules_uses [.geometry] ⟨"", false, none⟩)
    (ofModules_uses _ _) (ofModules_uses _ _) rfl

/-- **Compiling a part of an expression beforehand changes nothing**, with or without the store
types found for it; and compiling a compiled expression gives it back. -/
theorem compile_plug_compiled (hs : s.Uses d ms) (hs₁ : s.Uses d₁ ms) (hs₂ : s.Uses d₂ ms)
    (hout : (s.compile d e).1 = .ok out) :
    (∀ C : Context, (s.compile d₁ (C.plug out.expr)).1 = (s.compile d₂ (C.plug e)).1 ∧
      (s.compile d₁ (C.plug out.expr.unresolved)).1 = (s.compile d₂ (C.plug e)).1) ∧
    (s.compile d₁ out.expr).1 = .ok out := by
  rw [hs.compile_fst] at hout
  have hlowered : e.lowered (registry ms) s.config = out.expr.lowered (registry ms) s.config :=
    Expr.lowered_eq_of_lowered (List.Subset.refl ms) (compiled_eq_ok hout).1
  refine ⟨fun C => ⟨?_, ?_⟩, ?_⟩
  · rw [hs₁.compile_fst, hs₂.compile_fst]
    exact compiled_congr (C.lowered_plug hlowered.symm)
  · rw [hs₁.compile_fst, hs₂.compile_fst]
    exact compiled_congr
      (C.lowered_plug ((Expr.lowered_unresolved _ _ out.expr).trans hlowered.symm))
  · rw [hs₁.compile_fst, ← hout]
    exact compiled_congr hlowered.symm

/-- The compiled part, without its store type, beside a column. -/
theorem compile_plug_compiled_textOfPart :
    ∃ out : Compiled, ((ofModules [.geometry] ⟨"", false, none⟩).compile
        (.ofModules [.geometry]) .textOfPart).1 = .ok out ∧
      ((ofModules [.geometry] ⟨"", false, none⟩).compile (.ofModules [.geometry])
          (.binary "||" out.expr.unresolved (.column "label" .text))).1 =
        ((ofModules [.geometry] ⟨"", false, none⟩).compile (.ofModules [.geometry])
          (.binary "||" .textOfPart (.column "label" .text))).1 := by
  have huses := ofModules_uses [.geometry] ⟨"", false, none⟩
  refine ⟨_, rfl, ?_⟩
  exact ((compile_plug_compiled huses huses huses rfl).1
    (.left "||" .hole (.column "label" .text))).2

end Session

end SqlLowering
