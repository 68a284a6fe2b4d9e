import SqlLowering.Proofs.Sessions

/-!
# Compilation does not depend on history

A container serves compilations, under any configuration, and questions for store types. Whatever it
served before, and however that ended, it answers as a container would in which the same modules
were added and that served nothing. All that is left of a call is in the cache of bounded text,
where the descriptors that were there stay in their slots and others may follow.

The modules here are any modules: their rules may decline calls, replace them by anything, or abort.

* `Lowering.Keeps` : the computation keeps a property of the mapping source. Compiling does nothing
  to the source but ask it for store types, so it keeps what asking keeps (`compile_keeps`).
* `Container.serveAll_keeps` : the same for a sequence of calls to a container. That the source is
  faithful is kept, and that it grew out of an earlier one (`MappingSource.GrowsTo`).
* `Container.answer_congr` : on faithful sources the registry alone decides an answer.
* `Depot.exists_get_compileAll` : what sessions compile in a depot is, for each container, a
  sequence of calls.
-/

namespace SqlLowering

/-! ## What is kept by a computation -/

/-- The computation keeps a property of the mapping source, whether it succeeds or fails. -/
def Lowering.Keeps {α : Type} (P : MappingSource → Prop) (x : Lowering α) : Prop :=
  ∀ source : MappingSource, P source → P (x.run source).2

/-- Asking for a store type keeps the property. -/
def MappingSource.AskKeeps (P : MappingSource → Prop) : Prop :=
  ∀ (source : MappingSource) (t : DataType), P source → P (source.findMapping t).2

namespace Lowering

variable {α β : Type} {P : MappingSource → Prop}

theorem keeps_pure (a : α) : (pure a : Lowering α).Keeps P :=
  fun _ h => h

theorem keeps_throw (failure : CompileFailure) : (throw failure : Lowering α).Keeps P :=
  fun _ h => h

theorem keeps_lift (r : Except CompileFailure α) : (liftM r : Lowering α).Keeps P :=
  fun _ h => h

theorem Keeps.bind {x : Lowering α} {f : α → Lowering β} (hx : x.Keeps P)
    (hf : ∀ a, (f a).Keeps P) : (x >>= f).Keeps P := by
  intro source h
  have hsource := hx source h
  rw [run_bind]
  rcases hrun : x.run source with ⟨_ | a, source'⟩
  · rw [hrun] at hsource
    exact hsource
  · rw [hrun] at hsource
    exact hf a source' hsource

end Lowering

open Lowering

section Keeps

variable {P : MappingSource → Prop}

theorem resolveCast_keeps (hP : MappingSource.AskKeeps P) (config : Config) (target : DataType)
    (operand : Expr) : (resolveCast config target operand).Keeps P := by
  have hask : (askMapping (config.castTarget target)).Keeps P := fun source h => by
    rw [run_askMapping]
    exact hP source _ h
  unfold resolveCast
  refine hask.bind fun found => ?_
  cases found with
  | none => exact keeps_throw _
  | some mapping => exact keeps_pure _

theorem lowerCall_keeps (registry : Registry) (call : MethodCall) :
    (lowerCall registry call).Keeps P := by
  unfold lowerCall
  cases registry.translate call with
  | replaced e => exact keeps_pure e
  | declined => exact keeps_pure call.toExpr
  | aborted reason => exact keeps_throw (.aborted reason)

namespace Expr

variable (registry : Registry) (config : Config)

theorem lowerOption_keeps (receiver : Option Expr)
    (h : ∀ x ∈ receiver, (x.lower registry config).Keeps P) :
    (lowerOption registry config receiver).Keeps P := by
  cases receiver with
  | none => exact keeps_pure none
  | some e =>
      rw [lowerOption]
      exact (h e rfl).bind fun e' => keeps_pure (some e')

theorem lowerList_keeps (es : List Expr) (h : ∀ x ∈ es, (x.lower registry config).Keeps P) :
    (lowerList registry config es).Keeps P := by
  induction es with
  | nil => exact keeps_pure []
  | cons e es ih =>
      have hes := ih fun x hx => h x (List.mem_cons_of_mem e hx)
      rw [lowerList]
      exact (h e (List.mem_cons_self ..)).bind fun e' =>
        hes.bind fun es' => keeps_pure (e' :: es')

theorem lower_keeps (hP : MappingSource.AskKeeps P) (e : Expr) :
    (e.lower registry config).Keeps P := by
  induction e with
  | column name type => exact keeps_pure (column name type)
  | literal value => exact keeps_pure (literal value)
  | methodCall t m receiver args hreceiver hargs =>
      rw [lower]
      exact (lowerOption_keeps registry config receiver hreceiver).bind fun receiver' =>
        (lowerList_keeps registry config args hargs).bind fun args' =>
          lowerCall_keeps registry ⟨t, m, receiver', args'⟩
  | function name args hargs =>
      rw [lower]
      exact (lowerList_keeps registry config args hargs).bind fun args' =>
        keeps_pure (function name args')
  | binary operator left right hleft hright =>
      rw [lower]
      exact hleft.bind fun left' => hright.bind fun right' =>
        keeps_pure (binary operator left' right')
  | cast target storeType operand hoperand =>
      rw [lower]
      exact hoperand.bind fun operand' => resolveCast_keeps hP config target operand'
  | index array subscripts origin harray hsubscripts =>
      rw [lower]
      exact harray.bind fun array' =>
        (lowerList_keeps registry config subscripts hsubscripts).bind fun subscripts' =>
          keeps_pure (indexFromOne array' subscripts' origin)

end Expr

/-- **What asking for a store type keeps, compiling keeps**, whatever the modules are. -/
theorem compile_keeps (hP : MappingSource.AskKeeps P) (registry : Registry) (config : Config)
    (e : Expr) : (compile registry config e).Keeps P := by
  unfold compile
  exact (e.lower_keeps registry config hP).bind fun e' =>
    keeps_lift (Compiled.ofLowered config e')

end Keeps

/-! ## Growth -/

/-- Descriptors were added at the end of the cache, and nothing else was changed. -/
structure MappingSource.GrowsTo (a b : MappingSource) : Prop where
  default : b.text.default = a.text.default
  create : b.text.create = a.text.create
  entries : a.text.entries <+: b.text.entries

theorem FacetCache.entries_getOrCreate (cache : FacetCache) (facet : Option UInt32) :
    cache.entries <+: (cache.getOrCreate facet).2.entries := by
  unfold getOrCreate
  split
  · exact List.prefix_rfl
  · split
    · exact List.prefix_rfl
    · exact List.prefix_append ..

theorem FacetCache.findFrom_append {facet : UInt32} {found : Found}
    {entries : List (UInt32 × TypeDescriptor)} (more : List (UInt32 × TypeDescriptor)) :
    ∀ {start : Nat}, findFrom facet start entries = some found →
      findFrom facet start (entries ++ more) = some found := by
  induction entries with
  | nil =>
      intro start h
      cases h
  | cons entry entries ih =>
      intro start h
      rw [List.cons_append, findFrom]
      rw [findFrom] at h
      split
      · rename_i hkey
        rwa [if_pos hkey] at h
      · rename_i hkey
        rw [if_neg hkey] at h
        exact ih h

namespace MappingSource

theorem GrowsTo.refl (a : MappingSource) : a.GrowsTo a :=
  ⟨rfl, rfl, List.prefix_rfl⟩

theorem GrowsTo.findMapping {a b : MappingSource} (h : a.GrowsTo b) (t : DataType) :
    a.GrowsTo (b.findMapping t).2 := by
  rw [snd_findMapping]
  split
  · constructor
    · exact (FacetCache.default_getOrCreate b.text t.maxLength).trans h.default
    · exact (FacetCache.create_getOrCreate b.text t.maxLength).trans h.create
    · exact h.entries.trans (FacetCache.entries_getOrCreate b.text t.maxLength)
  · exact h

theorem GrowsTo.find?_eq_some {a b : MappingSource} (h : a.GrowsTo b) {facet : UInt32}
    {found : FacetCache.Found} (hfound : a.text.find? facet = some found) :
    b.text.find? facet = some found := by
  obtain ⟨more, hmore⟩ := h.entries
  unfold FacetCache.find? at hfound ⊢
  rw [← hmore]
  exact FacetCache.findFrom_append more hfound

end MappingSource

/-! ## Containers -/

inductive ServiceCall where
  | compile (config : Config) (e : Expr)
  | findMapping (t : DataType)

/-- What happens to a container: a module is added to it, or it is called. -/
inductive ContainerEvent where
  | addModule (m : TranslationModule)
  | call (c : ServiceCall)

def ContainerEvent.module? : ContainerEvent → Option TranslationModule
  | addModule m => some m
  | call _ => none

namespace Container

def compile (c : Container) (config : Config) (e : Expr) :
    Except CompileFailure Compiled × Container :=
  let (result, mappings) := (SqlLowering.compile c.registry config e).run c.mappings
  (result, { c with mappings := mappings })

def lower (c : Container) (config : Config) (e : Expr) : Except CompileFailure Expr :=
  ((e.lower c.registry config).run c.mappings).1

def findMapping (c : Container) (t : DataType) : Option MappingSource.Mapping × Container :=
  let (mapping, mappings) := c.mappings.findMapping t
  (mapping, { c with mappings := mappings })

/-- The answer to a call: the result of a compilation, or the contents of a descriptor. -/
def answer (c : Container) :
    ServiceCall → Except CompileFailure Compiled ⊕ Option TypeDescriptor
  | .compile config e => .inl (c.compile config e).1
  | .findMapping t => .inr ((c.findMapping t).1.map MappingSource.Mapping.descriptor)

/-- The container that a call leaves. -/
def serve (c : Container) : ServiceCall → Container
  | .compile config e => (c.compile config e).2
  | .findMapping t => (c.findMapping t).2

def serveAll (c : Container) (calls : List ServiceCall) : Container :=
  calls.foldl serve c

def step (c : Container) : ContainerEvent → Container
  | .addModule m => (c.addModule m).2
  | .call call => c.serve call

/-- A container to which these events happened since it was created. -/
def ofEvents (events : List ContainerEvent) : Container :=
  events.foldl step .empty

def fresh (modules : List TranslationModule) : Container :=
  ofEvents (modules.map .addModule)

/-! ### What calls keep -/

variable {P : MappingSource → Prop}

theorem registry_serve (c : Container) (call : ServiceCall) :
    (c.serve call).registry = c.registry := by
  cases call <;> rfl

theorem serve_keeps (hP : MappingSource.AskKeeps P) {c : Container} (h : P c.mappings)
    (call : ServiceCall) : P (c.serve call).mappings := by
  cases call with
  | compile config e => exact compile_keeps hP c.registry config e c.mappings h
  | findMapping t => exact hP c.mappings t h

theorem registry_serveAll (c : Container) (calls : List ServiceCall) :
    (c.serveAll calls).registry = c.registry := by
  induction calls generalizing c with
  | nil => rfl
  | cons call calls ih => exact (ih (c.serve call)).trans (c.registry_serve call)

theorem serveAll_append (c : Container) (calls more : List ServiceCall) :
    c.serveAll (calls ++ more) = (c.serveAll calls).serveAll more :=
  List.foldl_append

theorem serveAll_keeps (hP : MappingSource.AskKeeps P) {c : Container} (h : P c.mappings)
    (calls : List ServiceCall) : P (c.serveAll calls).mappings := by
  induction calls generalizing c with
  | nil => exact h
  | cons call calls ih => exact ih (serve_keeps hP h call)

end Container

namespace MappingSource

theorem Faithful.serveAll {c : Container} (h : c.mappings.Faithful) (calls : List ServiceCall) :
    (c.serveAll calls).mappings.Faithful :=
  Container.serveAll_keeps (fun _ t h => h.findMapping t) h calls

theorem GrowsTo.serveAll {a : MappingSource} {c : Container} (h : a.GrowsTo c.mappings)
    (calls : List ServiceCall) : a.GrowsTo (c.serveAll calls).mappings :=
  Container.serveAll_keeps (fun _ t h => h.findMapping t) h calls

end MappingSource

/-! ## What events leave -/

namespace Container

theorem foldl_step_keeps {P : MappingSource → Prop} (hP : MappingSource.AskKeeps P)
    {c : Container} (h : P c.mappings) (events : List ContainerEvent) :
    P (events.foldl step c).mappings := by
  induction events generalizing c with
  | nil => exact h
  | cons event events ih =>
      cases event with
      | addModule m => exact ih h
      | call call => exact ih (serve_keeps hP h call)

theorem faithful_foldl_step {c : Container} (h : c.mappings.Faithful)
    (events : List ContainerEvent) : (events.foldl step c).mappings.Faithful :=
  foldl_step_keeps (fun _ t h => h.findMapping t) h events

/-- The registry depends on the modules only, and on their order. -/
theorem registry_foldl_step {c c' : Container} (h : c.registry = c'.registry)
    (events : List ContainerEvent) :
    (events.foldl step c).registry =
      (((events.filterMap ContainerEvent.module?).map .addModule).foldl step c').registry := by
  induction events generalizing c c' with
  | nil => exact h
  | cons event events ih =>
      cases event with
      | addModule m =>
          have hadd : (c.registry.add m).2 = (c'.registry.add m).2 := by rw [h]
          exact ih hadd
      | call call => exact ih ((c.registry_serve call).trans h)

theorem faithful_ofEvents (events : List ContainerEvent) : (ofEvents events).mappings.Faithful :=
  faithful_foldl_step MappingSource.faithful_empty events

theorem lower_eq {c : Container} (h : c.mappings.Faithful) (config : Config) (e : Expr) :
    c.lower config e = e.lowered c.registry config :=
  (e.lower_answers c.registry config c.mappings h).1

theorem compile_fst {c : Container} (h : c.mappings.Faithful) (config : Config) (e : Expr) :
    (c.compile config e).1 = compiled c.registry config e :=
  (compile_answers c.registry config e c.mappings h).1

/-- On faithful sources the registry alone decides an answer. -/
theorem answer_congr {c c' : Container} (hregistry : c.registry = c'.registry)
    (h : c.mappings.Faithful) (h' : c'.mappings.Faithful) (call : ServiceCall) :
    c.answer call = c'.answer call := by
  cases call with
  | compile config e =>
      rw [answer, answer, compile_fst h, compile_fst h', hregistry]
  | findMapping t =>
      rw [answer, answer]
      exact congrArg Sum.inr
        ((h.descriptor_findMapping t).trans (h'.descriptor_findMapping t).symm)

end Container

/-! ## Depots -/

/-- The depot that some compilations leave, each by a session of it. -/
def Depot.compileAll (d : Depot) (jobs : List (Session × Expr)) : Depot :=
  jobs.foldl (fun d job => (job.1.compile d job.2).2) d

theorem Session.compile_fst_eq (s : Session) (d : Depot) (e : Expr) :
    (s.compile d e).1 = ((d.get s.container).compile s.config e).1 :=
  rfl

/-- A compilation is a call to one container at most. -/
theorem Session.exists_get_compile (s : Session) (d : Depot) (e : Expr) (id : ContainerId) :
    ∃ calls, (s.compile d e).2.get id = (d.get id).serveAll calls := by
  unfold Session.compile
  dsimp only
  rcases d.get_update s.container id _ with hget | ⟨rfl, hget⟩
  · exact ⟨[], hget⟩
  · exact ⟨[.compile s.config e], hget⟩

theorem Depot.exists_get_compileAll (d : Depot) (jobs : List (Session × Expr)) (id : ContainerId) :
    ∃ calls, (d.compileAll jobs).get id = (d.get id).serveAll calls := by
  induction jobs generalizing d with
  | nil => exact ⟨[], rfl⟩
  | cons job jobs ih =>
      obtain ⟨calls, hcalls⟩ := job.1.exists_get_compile d job.2 id
      obtain ⟨more, hmore⟩ := ih (job.1.compile d job.2).2
      refine ⟨calls ++ more, hmore.trans ?_⟩
      rw [hcalls, Container.serveAll_append]

/-! ## Independence -/

namespace Container

/-- **A container answers as a fresh one with the same modules**, whatever happened to it, and no
sequence of calls changes its registry, an entry of its cache or the answer to a later call. So a
session compiles as the fresh container does, whatever the sessions of its depot compiled before. -/
theorem answer_serveAll (events : List ContainerEvent) (calls : List ServiceCall) :
    let c := ofEvents events
    let c' := c.serveAll calls
    let new := fresh (events.filterMap ContainerEvent.module?)
    (∀ call, c'.answer call = new.answer call ∧ c'.answer call = c.answer call) ∧
      (∀ (s : Session) (d : Depot) (jobs : List (Session × Expr)) (e : Expr),
        d.get s.container = c' →
        (s.compile (d.compileAll jobs) e).1 = (new.compile s.config e).1) ∧
      c'.registry = c.registry ∧ c.mappings.GrowsTo c'.mappings ∧
      ∀ facet found, c.mappings.text.find? facet = some found →
        c'.mappings.text.find? facet = some found := by
  intro c c' new
  have hc : c.mappings.Faithful := faithful_foldl_step MappingSource.faithful_empty events
  have hc' : c'.mappings.Faithful := hc.serveAll calls
  have hnew : new.mappings.Faithful := faithful_foldl_step MappingSource.faithful_empty _
  have hregistry : c'.registry = c.registry := registry_serveAll c calls
  have hmodules : c.registry = new.registry := registry_foldl_step rfl events
  have hgrows : c.mappings.GrowsTo c'.mappings := (MappingSource.GrowsTo.refl _).serveAll calls
  refine ⟨fun call => ⟨?_, ?_⟩, fun s d jobs e hcontainer => ?_, hregistry, hgrows,
    fun facet found hfound => hgrows.find?_eq_some hfound⟩
  · exact answer_congr (hregistry.trans hmodules) hc' hnew call
  · exact answer_congr hregistry hc' hc call
  · -- The compilations of the sessions are some more calls to the container.
    obtain ⟨more, hmore⟩ := d.exists_get_compileAll jobs s.container
    rw [s.compile_fst_eq, hmore, hcontainer, compile_fst (hc'.serveAll more), compile_fst hnew,
      registry_serveAll, hregistry, hmodules]

/-- A strict compilation fails and leaves a descriptor beside the one that was asked for. Without
strictness the expression is compiled as in a fresh container, and the first descriptor is where it
was. -/
theorem answer_serveAll_textOfPart :
    let old : Container := ofEvents [.addModule BundledModule.geometry.extension.module,
      .call (.findMapping ⟨.text, some 20⟩), .addModule BundledModule.unaccent.extension.module]
    let strict : Session := ⟨⟨"", true, some 7⟩, [], ⟨0⟩, true⟩
    let lax : Session := ⟨⟨"", false, some 7⟩, [], ⟨0⟩, true⟩
    let d : Depot := Depot.compileAll ⟨[old]⟩ [(strict, .textOfPart)]
    (d.get ⟨0⟩).mappings.text.size = 2 ∧
      (d.get ⟨0⟩).mappings.text.find? 20 = some ⟨.slot 0, boundedText 20⟩ ∧
      (lax.compile d .textOfPart).1 = ((fresh [BundledModule.geometry.extension.module,
        BundledModule.unaccent.extension.module]).compile lax.config .textOfPart).1 := by
  intro old strict lax d
  refine ⟨rfl, ?_, ?_⟩
  · exact (answer_serveAll [_, _, _] [.compile strict.config .textOfPart]).2.2.2.2 20 _ rfl
  · exact (answer_serveAll [_, _, _] []).2.1 lax ⟨[old]⟩ [(strict, .textOfPart)] .textOfPart rfl

end Container

end SqlLowering
