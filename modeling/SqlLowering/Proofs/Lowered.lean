import SqlLowering.Proofs.StoreType
import SqlLowering.Proofs.Tree
import SqlLowering.Translation.Lowering

/-!
# Lowering as a function

`Expr.lower` asks a mapping source and leaves it changed. On a faithful source the answers depend on
the data types only, so lowering is a function from expressions to expressions or failures:
`Expr.lowered`, by the same recursion. `Lowering.Answers` says of a computation that it gives one
answer on all faithful sources and leaves a faithful source, and it is kept by sequencing; so it
holds of lowering (`Expr.lower_answers`) and of compilation (`compile_answers`).

The second part says what success means: for several expressions, one successful lowering for each,
in order.
-/

namespace SqlLowering

/-! ## Computations with one answer -/

/-- The computation answers `r` on every faithful source, and leaves a faithful source. -/
def Lowering.Answers {α : Type} (x : Lowering α) (r : Except CompileFailure α) : Prop :=
  ∀ source : MappingSource, source.Faithful → (x.run source).1 = r ∧ (x.run source).2.Faithful

namespace Lowering

variable {α β : Type}

theorem run_bind (x : Lowering α) (f : α → Lowering β) (source : MappingSource) :
    (x >>= f).run source =
      match x.run source with
      | (.ok a, source') => (f a).run source'
      | (.error failure, source') => (.error failure, source') := by
  change ExceptT.bindCont f (x.run source).1 (x.run source).2 = _
  rcases x.run source with ⟨_ | a, source'⟩ <;> rfl

theorem answers_pure (a : α) : (pure a : Lowering α).Answers (.ok a) :=
  fun _ hsource => ⟨rfl, hsource⟩

theorem answers_throw (failure : CompileFailure) :
    (throw failure : Lowering α).Answers (.error failure) :=
  fun _ hsource => ⟨rfl, hsource⟩

theorem answers_lift (r : Except CompileFailure α) : (liftM r : Lowering α).Answers r :=
  fun _ hsource => ⟨rfl, hsource⟩

theorem Answers.bind {x : Lowering α} {f : α → Lowering β} {r : Except CompileFailure α}
    {g : α → Except CompileFailure β} (hx : x.Answers r) (hf : ∀ a, (f a).Answers (g a)) :
    (x >>= f).Answers (r >>= g) := by
  intro source hsource
  obtain ⟨hr, hsource'⟩ := hx source hsource
  rw [run_bind]
  rcases hrun : x.run source with ⟨_ | a, source'⟩
  · rw [hrun] at hr hsource'
    rw [← hr]
    exact ⟨rfl, hsource'⟩
  · rw [hrun] at hr hsource'
    rw [← hr]
    exact hf a source' hsource'

end Lowering

/-! ## The function -/

/-- The cast of a lowered operand, with the store type that every source gives it. -/
def Config.resolvedCast (config : Config) (target : DataType) (operand : Expr) :
    Except CompileFailure Expr :=
  match (config.castTarget target).storeType? with
  | some descriptor => .ok (.cast target (some descriptor) operand)
  | none => .error (.unmapped (config.castTarget target) operand)

def Registry.answer (registry : Registry) (call : MethodCall) : Except CompileFailure Expr :=
  match registry.translate call with
  | .replaced e => .ok e
  | .declined => .ok call.toExpr
  | .aborted reason => .error (.aborted reason)

namespace Expr

mutual

/-- The native form of an expression, whatever source resolves its casts. -/
def lowered (registry : Registry) (config : Config) : Expr → Except CompileFailure Expr
  | column name type => return column name type
  | literal value => return literal value
  | methodCall t m receiver args => do
    let receiver ← loweredOption registry config receiver
    let args ← loweredList registry config args
    registry.answer ⟨t, m, receiver, args⟩
  | function name args => do
    let args ← loweredList registry config args
    return function name args
  | binary operator left right => do
    let left ← left.lowered registry config
    let right ← right.lowered registry config
    return binary operator left right
  | cast target _ operand => do
    let operand ← operand.lowered registry config
    config.resolvedCast target operand
  | index array subscripts origin => do
    let array ← array.lowered registry config
    let subscripts ← loweredList registry config subscripts
    return indexFromOne array subscripts origin

def loweredOption (registry : Registry) (config : Config) :
    Option Expr → Except CompileFailure (Option Expr)
  | none => return none
  | some e => do
    let e ← e.lowered registry config
    return some e

def loweredList (registry : Registry) (config : Config) :
    List Expr → Except CompileFailure (List Expr)
  | [] => return []
  | e :: es => do
    let e ← e.lowered registry config
    let es ← loweredList registry config es
    return e :: es

end

end Expr

/-- The compiled form of an expression, whatever source resolves its casts. -/
def compiled (registry : Registry) (config : Config) (e : Expr) :
    Except CompileFailure Compiled := do
  let lowered ← e.lowered registry config
  Compiled.ofLowered config lowered

/-! ## Lowering answers with the function -/

open Lowering

theorem run_askMapping (t : DataType) (source : MappingSource) :
    (askMapping t).run source = (.ok (source.findMapping t).1, (source.findMapping t).2) := rfl

theorem resolveCast_answers (config : Config) (target : DataType) (operand : Expr) :
    (resolveCast config target operand).Answers (config.resolvedCast target operand) := by
  intro source hsource
  have hfound := hsource.descriptor_findMapping (config.castTarget target)
  have hsource' := hsource.findMapping (config.castTarget target)
  unfold resolveCast Config.resolvedCast
  rw [run_bind, run_askMapping, ← hfound]
  cases (source.findMapping (config.castTarget target)).1 with
  | none => exact ⟨rfl, hsource'⟩
  | some mapping => exact ⟨rfl, hsource'⟩

theorem lowerCall_answers (registry : Registry) (call : MethodCall) :
    (lowerCall registry call).Answers (registry.answer call) := by
  unfold lowerCall Registry.answer
  cases registry.translate call with
  | replaced e => exact answers_pure e
  | declined => exact answers_pure call.toExpr
  | aborted reason => exact answers_throw (.aborted reason)

namespace Expr

variable (registry : Registry) (config : Config)

theorem lowerOption_answers (receiver : Option Expr)
    (h : ∀ x ∈ receiver, (x.lower registry config).Answers (x.lowered registry config)) :
    (lowerOption registry config receiver).Answers (loweredOption registry config receiver) := by
  cases receiver with
  | none => exact answers_pure none
  | some e =>
      rw [lowerOption, loweredOption]
      exact (h e rfl).bind fun e' => answers_pure (some e')

theorem lowerList_answers (es : List Expr)
    (h : ∀ x ∈ es, (x.lower registry config).Answers (x.lowered registry config)) :
    (lowerList registry config es).Answers (loweredList registry config es) := by
  induction es with
  | nil => exact answers_pure []
  | cons e es ih =>
      have hes := ih fun x hx => h x (List.mem_cons_of_mem e hx)
      rw [lowerList, loweredList]
      exact (h e (List.mem_cons_self ..)).bind fun e' =>
        hes.bind fun es' => answers_pure (e' :: es')

/-- **Lowering is a function on faithful sources**, and leaves such a source. -/
theorem lower_answers (e : Expr) :
    (e.lower registry config).Answers (e.lowered registry config) := by
  induction e with
  | column name type => exact answers_pure (column name type)
  | literal value => exact answers_pure (literal value)
  | methodCall t m receiver args hreceiver hargs =>
      rw [lower, lowered]
      exact (lowerOption_answers registry config receiver hreceiver).bind fun receiver' =>
        (lowerList_answers registry config args hargs).bind fun args' =>
          lowerCall_answers registry ⟨t, m, receiver', args'⟩
  | function name args hargs =>
      rw [lower, lowered]
      exact (lowerList_answers registry config args hargs).bind fun args' =>
        answers_pure (function name args')
  | binary operator left right hleft hright =>
      rw [lower, lowered]
      exact hleft.bind fun left' => hright.bind fun right' =>
        answers_pure (binary operator left' right')
  | cast target storeType operand hoperand =>
      rw [lower, lowered]
      exact hoperand.bind fun operand' => resolveCast_answers config target operand'
  | index array subscripts origin harray hsubscripts =>
      rw [lower, lowered]
      exact harray.bind fun array' =>
        (lowerList_answers registry config subscripts hsubscripts).bind fun subscripts' =>
          answers_pure (indexFromOne array' subscripts' origin)

end Expr

/-- **Compilation is a function on faithful sources**, and leaves such a source. -/
theorem compile_answers (registry : Registry) (config : Config) (e : Expr) :
    (compile registry config e).Answers (compiled registry config e) := by
  unfold compile compiled
  exact (e.lower_answers registry config).bind fun e' =>
    answers_lift (Compiled.ofLowered config e')

/-! ## Success -/

theorem bind_eq_ok_iff {ε α β : Type} {x : Except ε α} {f : α → Except ε β} {b : β} :
    (x >>= f) = .ok b ↔ ∃ a, x = .ok a ∧ f a = .ok b := by
  cases x with
  | error failure =>
      constructor
      · intro h
        cases h
      · rintro ⟨a, h, _⟩
        cases h
  | ok a =>
      constructor
      · intro h
        exact ⟨a, rfl, h⟩
      · rintro ⟨a', h, hf⟩
        cases h
        exact hf

namespace Compiled

variable {config : Config} {e : Expr}

theorem ofLowered_of_methodCalls {first : MethodCall} {rest : List MethodCall}
    (hstrict : config.strictTranslation = true) (hcalls : e.methodCalls = first :: rest) :
    ofLowered config e = .error (.untranslated first) := by
  unfold ofLowered
  rw [hstrict, hcalls]

/-- Unless translation is strict and a call was left, a lowered expression has a compiled form: it
is kept, with its text and the names of its calls. -/
theorem ofLowered_eq_ok_iff {out : Compiled} :
    ofLowered config e = .ok out ↔
      (config.strictTranslation = true → e.methodCalls = []) ∧
      out = ⟨e, e.render, e.methodCalls.map MethodCall.qualifiedName⟩ := by
  cases hcalls : e.methodCalls with
  | nil =>
      have hout : ofLowered config e = .ok ⟨e, e.render, []⟩ := by
        unfold ofLowered
        rw [hcalls]
        cases config.strictTranslation <;> rfl
      rw [hout, Except.ok.injEq, List.map_nil, eq_comm]
      exact ⟨fun h => ⟨fun _ => rfl, h⟩, And.right⟩
  | cons first rest =>
      cases hstrict : config.strictTranslation with
      | true =>
          rw [ofLowered_of_methodCalls hstrict hcalls]
          simp
      | false =>
          unfold ofLowered
          rw [hcalls, hstrict, Except.ok.injEq, eq_comm]
          simp

end Compiled

theorem compiled_eq_ok {registry : Registry} {config : Config} {e : Expr} {out : Compiled}
    (h : compiled registry config e = .ok out) :
    e.lowered registry config = .ok out.expr ∧ out.sql = out.expr.render ∧
      out.untranslated = out.expr.methodCalls.map MethodCall.qualifiedName := by
  obtain ⟨e', he', hout⟩ := bind_eq_ok_iff.1 h
  obtain ⟨-, rfl⟩ := Compiled.ofLowered_eq_ok_iff.1 hout
  exact ⟨he', rfl, rfl⟩

theorem methodCalls_eq_nil_of_strict {registry : Registry} {config : Config} {e : Expr}
    {out : Compiled} (hstrict : config.strictTranslation = true)
    (h : compiled registry config e = .ok out) : out.expr.methodCalls = [] := by
  obtain ⟨e', -, hout⟩ := bind_eq_ok_iff.1 h
  obtain ⟨hcalls, rfl⟩ := Compiled.ofLowered_eq_ok_iff.1 hout
  exact hcalls hstrict

namespace Expr

variable {registry registry' : Registry} {config config' : Config}

theorem loweredList_eq_ok_iff {es es' : List Expr} :
    loweredList registry config es = .ok es' ↔
      List.Forall₂ (fun x x' => x.lowered registry config = .ok x') es es' := by
  induction es generalizing es' with
  | nil =>
      rw [loweredList, List.forall₂_nil_left_iff]
      exact ⟨fun h => (Except.ok.inj h).symm, fun h => h ▸ rfl⟩
  | cons e es ih =>
      rw [loweredList, List.forall₂_cons_left_iff, bind_eq_ok_iff]
      constructor
      · rintro ⟨e', he, h⟩
        obtain ⟨fs, hfs, h⟩ := bind_eq_ok_iff.1 h
        exact ⟨e', fs, he, ih.1 hfs, (Except.ok.inj h).symm⟩
      · rintro ⟨e', fs, he, hfs, rfl⟩
        exact ⟨e', he, bind_eq_ok_iff.2 ⟨fs, ih.2 hfs, rfl⟩⟩

theorem exists_loweredList_iff {es : List Expr} :
    (∃ es', loweredList registry config es = .ok es') ↔
      ∀ x ∈ es, ∃ x', x.lowered registry config = .ok x' := by
  simp only [loweredList_eq_ok_iff]
  induction es with
  | nil => exact ⟨fun _ x hx => absurd hx List.not_mem_nil, fun _ => ⟨[], .nil⟩⟩
  | cons e es ih =>
      rw [List.forall_mem_cons, ← ih]
      constructor
      · rintro ⟨_, h⟩
        obtain ⟨e', es', he, hes, -⟩ := List.forall₂_cons_left_iff.1 h
        exact ⟨⟨e', he⟩, es', hes⟩
      · rintro ⟨⟨e', he⟩, es', hes⟩
        exact ⟨e' :: es', .cons he hes⟩

theorem loweredOption_eq_ok_iff {r r' : Option Expr} :
    loweredOption registry config r = .ok r' ↔
      Option.Rel (fun x x' => x.lowered registry config = .ok x') r r' := by
  cases r with
  | none =>
      constructor
      · intro h
        rw [← Except.ok.inj h]
        exact .none
      · rintro ⟨⟩
        rfl
  | some e =>
      rw [loweredOption, bind_eq_ok_iff]
      constructor
      · rintro ⟨e', he, h⟩
        rw [← Except.ok.inj h]
        exact .some he
      · intro h
        cases h with
        | some he => exact ⟨_, he, rfl⟩

theorem loweredList_congr {es es' : List Expr}
    (h : List.Forall₂ (fun x x' => x.lowered registry config = x'.lowered registry' config')
      es es') : loweredList registry config es = loweredList registry' config' es' := by
  induction h with
  | nil => rfl
  | cons he _ ih => rw [loweredList, loweredList, he, ih]

theorem loweredOption_congr {r r' : Option Expr}
    (h : Option.Rel (fun x x' => x.lowered registry config = x'.lowered registry' config') r r') :
    loweredOption registry config r = loweredOption registry' config' r' := by
  cases h with
  | none => rfl
  | some he => rw [loweredOption, loweredOption, he]

theorem loweredList_operands (r : Option Expr) (as : List Expr) :
    loweredList registry config (r.toList ++ as) = do
      let r' ← loweredOption registry config r
      let as' ← loweredList registry config as
      return r'.toList ++ as' := by
  cases r with
  | none =>
      change loweredList registry config as = loweredList registry config as >>= pure
      rw [bind_pure]
  | some e =>
      rw [Option.toList_some, List.singleton_append, loweredList, loweredOption, bind_assoc]
      rfl

end Expr

end SqlLowering
