import SqlLowering.Proofs.CachedLengths
import SqlLowering.Proofs.NormalForm

/-!
# Resolved casts and their effect on the cache

What compiling an expression leaves in the cache of a container, and what becomes of its casts. The
container is any container: its rules may abort, which ends lowering early, and they may put casts
of their own into the result, which are not resolved, since what replaces a call is not lowered
again. So each cast of a native form is accounted for: it is the image of a cast of the source, or a
rule put it there (`Expr.everywhere_accounted`). The bundled rules do neither.
-/

namespace SqlLowering

open BundledModule (translate_eq_replaced_iff)

/-! ## Casts in native forms -/

/-- The rules put the expression into the native form: it is part of what replaces one of the calls,
and of none of the operands of that call. -/
def Expr.Inserted (registry : Registry) (config : Config) (e x : Expr) : Prop :=
  ∃ call ∈ e.methodCalls, ∃ (call' : MethodCall) (replacement : Expr),
    call.lowered registry config = .ok call' ∧ registry.translate call' = .replaced replacement ∧
      x.NodeOf replacement ∧ ∀ operand ∈ call'.operands, ¬ x.NodeOf operand

/-- A cast of the source became this cast: the target is the declared one, the store type has the
name that the length gives it, and the operand is in its native form. -/
def CastSite.Becomes (registry : Registry) (config : Config) (site : CastSite) (target : DataType)
    (storeType : Option TypeDescriptor) (operand : Expr) : Prop :=
  site.target = target ∧ storeType.map TypeDescriptor.storeType = site.storeName? config ∧
    storeType.isSome ∧ site.operand.lowered registry config = .ok operand

namespace Expr

/-- What is known of a node of a native form: a cast is one of the source, or was put there. -/
def Accounted (registry : Registry) (config : Config) (e : Expr) : Expr → Prop
  | cast target storeType operand =>
    (∃ site ∈ e.casts, site.Becomes registry config target storeType operand) ∨
      e.Inserted registry config (cast target storeType operand)
  | _ => True

section Accounted

variable {registry : Registry} {config : Config}

theorem accounted_shifts (e : Expr) : HoldsOfShifts (e.Accounted registry config) :=
  ⟨fun _ => trivial, fun _ _ => trivial, fun _ _ => trivial⟩

theorem Accounted.of_mem_children {child e x : Expr} (h : child.Accounted registry config x)
    (hchild : child ∈ e.children) : e.Accounted registry config x := by
  cases x with
  | cast target storeType operand =>
      rcases h with ⟨site, hsite, hbecomes⟩ | ⟨call, hcall, h⟩
      · refine Or.inl ⟨site, ?_, hbecomes⟩
        rw [casts_eq]
        exact List.mem_append_left _ (List.mem_flatMap.2 ⟨child, hchild, hsite⟩)
      · exact Or.inr ⟨call, methodCalls_subset_of_mem_children hchild hcall, h⟩
  | _ => trivial

theorem everywhere_of_children {e : Expr} {es es' : List Expr} (hes : es ⊆ e.children)
    (ih : ∀ x ∈ e.children, ∀ x', x.lowered registry config = .ok x' →
      x'.Everywhere (x.Accounted registry config))
    (h : List.Forall₂ (fun x x' => x.lowered registry config = .ok x') es es') :
    ∀ x' ∈ es', x'.Everywhere (e.Accounted registry config) := by
  have hmem : ∀ x ∈ es, x ∈ e.children := fun x hx => hes hx
  refine forall_mem_of_forall₂ (((List.forall₂_and_left es es').2 ⟨hmem, h⟩).imp ?_)
  exact fun x x' hx y hy => (ih x hx.1 x' hx.2 y hy).of_mem_children hx.1

/-- What replaces a call is accounted for when its operands are. -/
theorem everywhere_accounted_of_replaced {e replacement : Expr} {call call' : MethodCall}
    (hcall : call ∈ e.methodCalls) (hlowered : call.lowered registry config = .ok call')
    (htranslate : registry.translate call' = .replaced replacement)
    (hoperands : ∀ x ∈ call'.operands, x.Everywhere (e.Accounted registry config)) :
    replacement.Everywhere (e.Accounted registry config) := by
  intro x hx
  by_cases hoperand : ∃ operand ∈ call'.operands, x.NodeOf operand
  · obtain ⟨operand, hmem, hnode⟩ := hoperand
    exact hoperands operand hmem x hnode
  · cases x with
    | cast target storeType operand =>
        refine Or.inr ⟨call, hcall, call', replacement, hlowered, htranslate, hx, ?_⟩
        exact fun operand hmem hnode => hoperand ⟨operand, hmem, hnode⟩
    | _ => trivial

/-- **Every cast of a native form is one of the source, or was put there by a rule.** -/
theorem everywhere_accounted {e e' : Expr} (h : e.lowered registry config = .ok e') :
    e'.Everywhere (e.Accounted registry config) := by
  induction e using induct_children generalizing e' with
  | h e ih =>
    have hchildren : ∀ {es es' : List Expr}, es ⊆ e.children →
        List.Forall₂ (fun x x' => x.lowered registry config = .ok x') es es' →
        ∀ x' ∈ es', x'.Everywhere (e.Accounted registry config) :=
      fun hes => everywhere_of_children hes fun x hx x' hx' => ih x hx hx'
    cases e with
    | column name type =>
        rw [← Except.ok.inj h]
        exact everywhere_iff.2 ⟨trivial, fun child hchild => by cases hchild⟩
    | literal value =>
        rw [← Except.ok.inj h]
        exact everywhere_literal (accounted_shifts _) value
    | methodCall t m r as =>
        obtain ⟨r', as', hr, has, hanswer⟩ := lowered_methodCall_eq_ok h
        have hoperands := hchildren (List.Subset.refl _) (forall₂_operands hr has)
        have hlowered : (MethodCall.mk t m r as).lowered registry config = .ok ⟨t, m, r', as'⟩ := by
          rw [MethodCall.lowered, loweredOption_eq_ok_iff.2 hr, loweredList_eq_ok_iff.2 has]
          rfl
        unfold Registry.answer at hanswer
        cases htranslate : registry.translate ⟨t, m, r', as'⟩ with
        | replaced replacement =>
            rw [htranslate] at hanswer
            rw [← Except.ok.inj hanswer]
            exact everywhere_accounted_of_replaced (by simp [methodCalls]) hlowered htranslate
              hoperands
        | declined =>
            rw [htranslate] at hanswer
            rw [← Except.ok.inj hanswer]
            exact everywhere_iff.2 ⟨trivial, hoperands⟩
        | aborted reason =>
            rw [htranslate] at hanswer
            cases hanswer
    | function name as =>
        obtain ⟨as', has, rfl⟩ := lowered_function_eq_ok h
        exact everywhere_iff.2 ⟨trivial, hchildren (List.Subset.refl _) has⟩
    | binary operator l r =>
        obtain ⟨l', r', hl, hr, rfl⟩ := lowered_binary_eq_ok h
        have hsides := hchildren (List.Subset.refl _) (.cons hl (.cons hr .nil))
        exact everywhere_iff.2 ⟨trivial, hsides⟩
    | cast target storeType x =>
        obtain ⟨x', descriptor, hx, hstore, rfl⟩ := lowered_cast_eq_ok h
        refine everywhere_iff.2 ⟨Or.inl ⟨⟨target, x⟩, ?_, rfl, ?_, rfl, hx⟩,
          hchildren (List.Subset.refl _) (.cons hx .nil)⟩
        · exact List.mem_append_right _ (List.mem_singleton_self _)
        · exact (CastSite.storeName?_of_storeType? hstore).symm
    | index a is origin =>
        obtain ⟨a', is', ha, his, rfl⟩ := lowered_index_eq_ok h
        have hall := hchildren (List.Subset.refl _) (.cons ha his)
        exact everywhere_indexFromOne (accounted_shifts _) origin (hall a' (List.mem_cons_self ..))
          fun x hx => hall x (List.mem_cons_of_mem _ hx)

end Accounted

/-! ## Bundled rules -/

def CastOfOperand (operands : List Expr) : Expr → Prop
  | cast target storeType x => ∃ operand ∈ operands, (cast target storeType x).NodeOf operand
  | _ => True

/-- A form puts a function or an operator over the operands, and shifts add constants and sums. -/
theorem everywhere_castOfOperand {form : NativeForm} {es : List Expr} {e : Expr}
    (h : form.apply es = .replaced e) : e.Everywhere (CastOfOperand es) := by
  have hshifts : HoldsOfShifts (CastOfOperand es) :=
    ⟨fun _ => trivial, fun _ _ => trivial, fun _ _ => trivial⟩
  refine everywhere_of_apply hshifts h ?_ fun operand hoperand x hx => ?_
  · rcases NativeForm.apply_eq_replaced h with ⟨_, _, rfl⟩ | ⟨_, _, _, _, _, rfl⟩ | ⟨_, _, rfl⟩
    · trivial
    · trivial
    · trivial
  · cases x with
    | cast target storeType x => exact ⟨operand, hoperand, hx⟩
    | _ => trivial

/-- Bundled rules put no cast into a native form. -/
theorem not_inserted_registry (ms : List BundledModule) (config : Config) (e : Expr)
    (target : DataType) (storeType : Option TypeDescriptor) (x : Expr) :
    ¬ e.Inserted (BundledModule.registry ms) config (cast target storeType x) := by
  rintro ⟨call, _, call', replacement, _, htranslate, hnode, hnot⟩
  obtain ⟨form, -, happly⟩ := translate_eq_replaced_iff.1 htranslate
  obtain ⟨operand, hoperand, hmem⟩ := everywhere_castOfOperand happly _ hnode
  exact hnot operand hoperand hmem

end Expr

theorem MethodCall.aborts_registry (ms : List BundledModule) (config : Config)
    (call : MethodCall) : call.aborts (BundledModule.registry ms) config = false := by
  unfold aborts
  cases call.lowered (BundledModule.registry ms) config with
  | error failure => rfl
  | ok call' =>
      obtain ⟨e, he⟩ := exists_answer ms call'
      unfold Registry.answer at he
      cases htranslate : (BundledModule.registry ms).translate call' with
      | aborted reason =>
          rw [htranslate] at he
          cases he
      | replaced replacement => simp only [htranslate]
      | declined => simp only [htranslate]

/-! ## Containers -/

namespace Container

def facets (c : Container) : List UInt32 :=
  c.mappings.facets

theorem nodup_facets_findMapping (source : MappingSource) (t : DataType)
    (h : source.facets.Nodup) : (source.findMapping t).2.facets.Nodup := by
  rw [source.facets_findMapping]
  exact nodup_addFacets h _

/-- **Casts are resolved in the order of lowering, and their lengths are cached.** A compilation
resolves the casts before the first one to a type of the host side, or before the call at which a
rule aborts if that comes first, whatever becomes of the expression. The cache then holds what it
held before, and the lengths of those casts, each once. When the compilation succeeds all casts are
resolved, and a cast of the result is one of them, with the store type of its length and its
declared target, or a rule put it there. The bundled rules abort for no call and put no cast
anywhere. -/
theorem compile_resolvedCasts (events : List ContainerEvent) (config : Config) (e : Expr) :
    let c := ofEvents events
    let c' := (c.compile config e).2
    let resolved := e.resolvedCasts c.registry config
    ((∀ call ∈ e.methodCalls, call.aborts c.registry config = false) →
      resolved = e.casts.takeWhile fun site => !site.target.isHostOnly) ∧
    (c'.facets.Nodup ∧ c.facets <+: c'.facets ∧
      ∀ n, n ∈ c'.facets ↔ n ∈ c.facets ∨ ∃ site ∈ resolved, site.length? config = some n) ∧
    (∀ out, (c.compile config e).1 = .ok out → resolved = e.casts ∧
      ∀ target storeType x, (Expr.cast target storeType x).NodeOf out.expr →
        (∃ site ∈ e.casts, site.Becomes c.registry config target storeType x) ∨
          e.Inserted c.registry config (.cast target storeType x)) ∧
    ∀ ms, c.registry = BundledModule.registry ms →
      (∀ call : MethodCall, call.aborts c.registry config = false) ∧
      ∀ target storeType x, ¬ e.Inserted c.registry config (.cast target storeType x) := by
  intro c c' resolved
  have hc : c.mappings.Faithful := faithful_foldl_step MappingSource.faithful_empty events
  have hnodup : c.facets.Nodup :=
    foldl_step_keeps (P := fun source => source.facets.Nodup) nodup_facets_findMapping
      (c := .empty) List.nodup_nil events
  have hfacets : c'.facets = addFacets c.facets (resolved.filterMap (CastSite.length? config)) :=
    facets_run_compile hc e
  refine ⟨resolvedCasts_eq_takeWhile, ⟨?_, ?_, fun n => ?_⟩, fun out hout => ?_, fun ms hms => ?_⟩
  · rw [hfacets]
    exact nodup_addFacets hnodup _
  · have hgrows := (MappingSource.GrowsTo.refl c.mappings).serveAll [.compile config e]
    exact hgrows.entries.map Prod.fst
  · rw [hfacets, mem_addFacets, List.mem_filterMap]
  · rw [compile_fst hc] at hout
    have hlowered := (compiled_eq_ok hout).1
    refine ⟨resolvedCasts_of_lowered hlowered, fun target storeType x hnode => ?_⟩
    exact Expr.everywhere_accounted hlowered _ hnode
  · rw [hms]
    exact ⟨MethodCall.aborts_registry ms config, e.not_inserted_registry ms config⟩

/-- The default length stands in for a length of zero, the length under a cast to a collection is
still cached, and what follows that cast is not. -/
theorem compile_resolvedCasts_fourLengths :
    let c := ofEvents [.addModule BundledModule.geometry.extension.module,
      .call (.findMapping ⟨.text, some 20⟩)]
    let config : Config := ⟨"", true, some 7⟩
    let name : Expr := .column "name" .text
    let e : Expr := .function "concat" [.cast ⟨.text, some 0⟩ none name,
      .cast ⟨.text, some 20⟩ none name,
      .cast ⟨.collection, none⟩ none (.cast ⟨.text, some 9⟩ none name),
      .cast ⟨.text, some 8⟩ none name]
    (∃ failure, (c.compile config e).1 = .error failure) ∧ c.facets = [20] ∧
      9 ∈ (c.compile config e).2.facets ∧ 8 ∉ (c.compile config e).2.facets := by
  intro c config name e
  have h := compile_resolvedCasts [.addModule BundledModule.geometry.extension.module,
    .call (.findMapping ⟨.text, some 20⟩)] config e
  have hresolved : e.resolvedCasts c.registry config =
      [⟨⟨.text, some 0⟩, name⟩, ⟨⟨.text, some 20⟩, name⟩, ⟨⟨.text, some 9⟩, name⟩] :=
    h.1 fun call _ => (h.2.2.2 [.geometry] rfl).1 call
  refine ⟨⟨_, rfl⟩, rfl, (h.2.1.2.2 9).2 (Or.inr ⟨⟨⟨.text, some 9⟩, name⟩, ?_, rfl⟩), fun h8 => ?_⟩
  · rw [hresolved]
    exact List.mem_cons_of_mem _ (List.mem_cons_of_mem _ (List.mem_singleton_self _))
  · rcases (h.2.1.2.2 8).1 h8 with h8 | ⟨site, hsite, hlength⟩
    · exact absurd h8 (by decide)
    · rw [hresolved] at hsite
      have hlengths : ∀ site ∈ [CastSite.mk ⟨.text, some 0⟩ name, ⟨⟨.text, some 20⟩, name⟩,
          ⟨⟨.text, some 9⟩, name⟩], site.length? config ≠ some 8 := by
        simp [CastSite.length?, Config.castLength?, config]
      exact hlengths site hsite hlength

/-- A rule that aborts keeps the length of a later cast out of the cache, and a rule that replaces a
call by a cast leaves it without a store type of its own. -/
theorem compile_resolvedCasts_ownRules :
    let config : Config := ⟨"", true, none⟩
    let offered : MethodCall := ⟨.geometry, "Area", some (.column "shape" .geometry), []⟩
    let site : CastSite := ⟨⟨.text, some 5⟩, .column "name" .text⟩
    let e : Expr := .function "f" [offered.toExpr, .cast site.target none site.operand]
    let aborting := ofEvents [.addModule ⟨"Broken", "custom", [fun _ => .aborted "bad area"]⟩]
    let casting := ofEvents [.addModule ⟨"Casting", "custom",
      [fun _ => .replaced (.cast site.target none site.operand)]⟩]
    (e.casts.takeWhile (fun site => !site.target.isHostOnly) = [site] ∧
      site.length? config = some 5 ∧ 5 ∉ (aborting.compile config e).2.facets) ∧
    ∃ out, (casting.compile config offered.toExpr).1 = .ok out ∧
      (Expr.cast site.target none site.operand).NodeOf out.expr ∧
      site.storeName? config = some "character varying(5)" ∧ out.sql = "CAST(name AS Text(5))" := by
  intro config offered site e aborting casting
  exact ⟨⟨rfl, rfl, by decide⟩, _, rfl, .root, rfl, rfl⟩

end Container

end SqlLowering
