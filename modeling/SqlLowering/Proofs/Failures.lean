import SqlLowering.Proofs.Selections

/-!
# When and how compilation fails

Two things make a compilation fail, and both can be read off the source. A cast to a type that only
exists on the host side has no store type; lowering meets the casts of an expression children first
and in order, and stops at the first such cast. If there is none, lowering succeeds, and with strict
translation a call that no active module recognises is then the failure, the outermost first.

`Expr.casts` lists the casts in the order in which they are met: those of the children, and then the
one of the root (`Expr.casts_eq`). They are the nodes that are casts (`Expr.mem_casts_iff`).

The step behind this is that of a sequence of computations: if the first part stops at its first
such cast or succeeds, and so does the rest after a success, then the whole does for the casts of
both parts in order (`StopsAtFirst.bind`). Calls add nothing to it, as a registry of bundled modules
answers every call.
-/

namespace SqlLowering

open BundledModule (registry activeForm?)

/-! ## Types without a store type -/

/-- Whether the type only exists on the host side. -/
def DataType.isHostOnly (t : DataType) : Bool :=
  t.base = .null || t.base = .collection || t.base = .dbFunctions

theorem DataType.storeType?_eq_none_iff (t : DataType) :
    t.storeType? = none ↔ t.isHostOnly = true := by
  obtain ⟨base, maxLength⟩ := t
  cases base <;> simp [storeType?, isHostOnly, ValueType.fixedStoreType?]

theorem Config.castTarget_of_isHostOnly (config : Config) {t : DataType}
    (h : t.isHostOnly = true) : config.castTarget t = t := by
  have hbase : t.base ≠ .text := by
    intro hbase
    simp [DataType.isHostOnly, hbase] at h
  rw [castTarget, if_neg hbase]

theorem Config.isHostOnly_castTarget (config : Config) (t : DataType) :
    (config.castTarget t).isHostOnly = t.isHostOnly := by
  unfold castTarget
  split <;> rfl

/-! ## Casts -/

/-- A cast of an expression: its declared target and its operand. -/
structure CastSite where
  target : DataType
  operand : Expr

namespace Expr

mutual

/-- The casts of an expression, those of the children before that of the parent, in order. -/
def casts : Expr → List CastSite
  | column _ _ => []
  | literal _ => []
  | methodCall _ _ receiver args => castsOption receiver ++ castsList args
  | function _ args => castsList args
  | binary _ left right => left.casts ++ right.casts
  | cast target _ operand => operand.casts ++ [⟨target, operand⟩]
  | index array subscripts _ => array.casts ++ castsList subscripts

def castsOption : Option Expr → List CastSite
  | none => []
  | some e => e.casts

def castsList : List Expr → List CastSite
  | [] => []
  | e :: es => e.casts ++ castsList es

end

theorem castsOption_eq (receiver : Option Expr) :
    castsOption receiver = receiver.toList.flatMap casts := by
  cases receiver with
  | none => rfl
  | some e => simp [castsOption]

theorem castsList_eq (es : List Expr) : castsList es = es.flatMap casts := by
  induction es with
  | nil => rfl
  | cons e es ih => rw [castsList, ih, List.flatMap_cons]

def rootCast? : Expr → Option CastSite
  | cast target _ operand => some ⟨target, operand⟩
  | _ => none

/-- The casts of the children come first, in order, and then the one of the root. -/
theorem casts_eq (e : Expr) : e.casts = e.children.flatMap casts ++ e.rootCast?.toList := by
  cases e <;> simp [casts, children, rootCast?, castsOption_eq, castsList_eq]

theorem rootCast?_eq_some_iff {c : CastSite} {e : Expr} :
    e.rootCast? = some c ↔ ∃ storeType, e = cast c.target storeType c.operand := by
  constructor
  · intro h
    cases e with
    | cast target storeType operand =>
        cases h
        exact ⟨storeType, rfl⟩
    | _ => cases h
  · rintro ⟨storeType, rfl⟩
    rfl

/-- The casts of an expression are its nodes that are casts. -/
theorem mem_casts_iff {c : CastSite} {e : Expr} :
    c ∈ e.casts ↔ ∃ storeType, (cast c.target storeType c.operand).NodeOf e := by
  constructor
  · induction e using induct_children with
    | h e ih =>
        intro hc
        rw [casts_eq, List.mem_append, List.mem_flatMap, Option.mem_toList,
          rootCast?_eq_some_iff] at hc
        rcases hc with ⟨child, hchild, hc⟩ | ⟨storeType, rfl⟩
        · obtain ⟨storeType, hnode⟩ := ih child hchild hc
          exact ⟨storeType, .inside hchild hnode⟩
        · exact ⟨storeType, .root⟩
  · rintro ⟨storeType, hnode⟩
    induction hnode with
    | root => exact List.mem_append_right _ (List.mem_singleton_self _)
    | inside hchild _ ih =>
        rw [casts_eq]
        exact List.mem_append_left _ (List.mem_flatMap.2 ⟨_, hchild, ih⟩)

end Expr

def firstHostOnly? (casts : List CastSite) : Option CastSite :=
  casts.find? fun c => c.target.isHostOnly

/-! ## Stopping at the first cast without a store type -/

/-- The outcome of lowering something with these casts: the first cast without a store type is the
failure, with its operand lowered, and without such a cast there is a result. -/
def StopsAtFirst (registry : Registry) (config : Config) (casts : List CastSite) {α : Type}
    (r : Except CompileFailure α) : Prop :=
  match firstHostOnly? casts with
  | some c => ∃ operand, c.operand.lowered registry config = .ok operand ∧
      r = .error (.unmapped c.target operand)
  | none => ∃ a, r = .ok a

namespace StopsAtFirst

variable {r : Registry} {config : Config} {α β : Type}

theorem ok (a : α) : StopsAtFirst r config [] (.ok a) :=
  ⟨a, rfl⟩

theorem bind {casts casts' : List CastSite} {x : Except CompileFailure α}
    {f : α → Except CompileFailure β} (hx : StopsAtFirst r config casts x)
    (hf : ∀ a, x = .ok a → StopsAtFirst r config casts' (f a)) :
    StopsAtFirst r config (casts ++ casts') (x >>= f) := by
  unfold StopsAtFirst firstHostOnly? at hx ⊢
  rw [List.find?_append]
  cases hfirst : casts.find? fun c => c.target.isHostOnly with
  | some c =>
      rw [hfirst] at hx
      obtain ⟨operand, hoperand, rfl⟩ := hx
      exact ⟨operand, hoperand, rfl⟩
  | none =>
      rw [hfirst] at hx
      obtain ⟨a, rfl⟩ := hx
      exact hf a rfl

theorem map {casts : List CastSite} {x : Except CompileFailure α}
    (hx : StopsAtFirst r config casts x) (f : α → β) :
    StopsAtFirst r config casts (x >>= fun a => .ok (f a)) := by
  have h := hx.bind fun a _ => ok (f a)
  rwa [List.append_nil] at h

/-- A cast fails by itself when its target only exists on the host side. -/
theorem resolvedCast {target : DataType} {x x' : Expr} (hx : x.lowered r config = .ok x') :
    StopsAtFirst r config [⟨target, x⟩] (config.resolvedCast target x') := by
  unfold StopsAtFirst firstHostOnly? Config.resolvedCast
  rw [List.find?_singleton]
  cases hstore : (config.castTarget target).storeType? with
  | none =>
      have hhost := (DataType.storeType?_eq_none_iff _).1 hstore
      rw [config.isHostOnly_castTarget] at hhost
      rw [if_pos hhost, config.castTarget_of_isHostOnly hhost]
      exact ⟨x', hx, rfl⟩
  | some descriptor =>
      have hhost : ¬ target.isHostOnly = true := by
        rw [← config.isHostOnly_castTarget, ← DataType.storeType?_eq_none_iff, hstore]
        simp
      rw [if_neg hhost]
      exact ⟨_, rfl⟩

end StopsAtFirst

namespace Expr

variable {ms : List BundledModule} {config : Config}

theorem loweredOption_stopsAtFirst (receiver : Option Expr)
    (h : ∀ x ∈ receiver, StopsAtFirst (registry ms) config x.casts
      (x.lowered (registry ms) config)) :
    StopsAtFirst (registry ms) config (castsOption receiver)
      (loweredOption (registry ms) config receiver) := by
  cases receiver with
  | none => exact .ok none
  | some e => exact (h e rfl).map some

theorem loweredList_stopsAtFirst (es : List Expr)
    (h : ∀ x ∈ es, StopsAtFirst (registry ms) config x.casts (x.lowered (registry ms) config)) :
    StopsAtFirst (registry ms) config (castsList es) (loweredList (registry ms) config es) := by
  induction es with
  | nil => exact .ok []
  | cons e es ih =>
      have hes := ih fun x hx => h x (List.mem_cons_of_mem e hx)
      rw [castsList, loweredList]
      exact (h e (List.mem_cons_self ..)).bind fun e' _ => hes.map fun es' => e' :: es'

/-- **Lowering stops at the first cast without a store type**, and succeeds if there is none. -/
theorem lowered_stopsAtFirst (e : Expr) :
    StopsAtFirst (registry ms) config e.casts (e.lowered (registry ms) config) := by
  induction e with
  | column name type => exact .ok (column name type)
  | literal value => exact .ok (literal value)
  | methodCall t m receiver args hreceiver hargs =>
      rw [casts, lowered]
      refine (loweredOption_stopsAtFirst receiver hreceiver).bind fun r' _ => ?_
      -- An answer is never a failure, so it counts as a step without casts.
      have hanswer : ∀ as', StopsAtFirst (registry ms) config []
          ((registry ms).answer ⟨t, m, r', as'⟩) := fun as' => exists_answer ms _
      have h := (loweredList_stopsAtFirst args hargs).bind fun as' _ => hanswer as'
      rwa [List.append_nil] at h
  | function name args hargs =>
      rw [casts, lowered]
      exact (loweredList_stopsAtFirst args hargs).map (function name)
  | binary operator left right hleft hright =>
      rw [casts, lowered]
      exact hleft.bind fun left' _ => hright.map (binary operator left')
  | cast target storeType operand hoperand =>
      rw [casts, lowered]
      exact hoperand.bind fun operand' h => .resolvedCast h
  | index array subscripts origin harray hsubscripts =>
      rw [casts, lowered]
      exact harray.bind fun array' _ =>
        (loweredList_stopsAtFirst subscripts hsubscripts).map fun subscripts' =>
          indexFromOne array' subscripts' origin

end Expr

/-! ## Compilation -/

def Config.withStrict (config : Config) (strict : Bool) : Config :=
  { config with strictTranslation := strict }

section Compilation

variable {ms : List BundledModule} {config : Config} {e e' : Expr}

end Compilation

/-! ## Sessions -/

def Session.withStrict (s : Session) (strict : Bool) : Session :=
  { s with config := s.config.withStrict strict }

namespace Session

variable {s : Session} {d : Depot} {ms : List BundledModule}

theorem Uses.withStrict (h : s.Uses d ms) (strict : Bool) : (s.withStrict strict).Uses d ms :=
  h

end Session

end SqlLowering
