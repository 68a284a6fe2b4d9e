import Mathlib.Data.List.TakeWhile
import SqlLowering.Proofs.CastTypes
import SqlLowering.Proofs.Failures
import SqlLowering.Proofs.History

/-!
# Resolved casts and cached lengths

Lowering comes to the casts and calls of an expression in a fixed order, those of the children
before the one of the parent (`Expr.sites`), and ends early at a cast that has no store type or at a
call for which a rule aborts. Every cast before that place is resolved, and the length of a cast to
text is then in the cache, whatever becomes of the expression afterwards. The modules here are any
modules, so what stops at a call is part of the account.

* `Lowering.Visits` : a computation comes to some sites in order. The step is that of a sequence of
  computations (`Visits.bind`), and lowering visits the sites of the expression
  (`Expr.lower_visits`).
* `facets_run_compile` : what compiling leaves in the cache, on every path.
-/

namespace SqlLowering

/-! ## Facets of a cache -/

/-- Some facets with one more at the end, unless it is among them. -/
def addFacet (facets : List UInt32) (n : UInt32) : List UInt32 :=
  if n ∈ facets then facets else facets ++ [n]

def addFacets (facets : List UInt32) (more : List UInt32) : List UInt32 :=
  more.foldl addFacet facets

theorem mem_addFacet {facets : List UInt32} {m n : UInt32} :
    m ∈ addFacet facets n ↔ m ∈ facets ∨ m = n := by
  unfold addFacet
  split
  · rename_i hn
    exact ⟨Or.inl, fun h => h.elim id fun h => h ▸ hn⟩
  · rw [List.mem_append, List.mem_singleton]

theorem mem_addFacets {facets more : List UInt32} {m : UInt32} :
    m ∈ addFacets facets more ↔ m ∈ facets ∨ m ∈ more := by
  induction more generalizing facets with
  | nil => simp [addFacets]
  | cons n more ih =>
      change m ∈ addFacets (addFacet facets n) more ↔ _
      rw [ih, mem_addFacet, List.mem_cons, or_assoc]

theorem nodup_addFacet {facets : List UInt32} (h : facets.Nodup) (n : UInt32) :
    (addFacet facets n).Nodup := by
  unfold addFacet
  split
  · exact h
  · rename_i hn
    exact List.concat_eq_append ▸ h.concat hn

theorem nodup_addFacets {facets : List UInt32} (h : facets.Nodup) (more : List UInt32) :
    (addFacets facets more).Nodup := by
  induction more generalizing facets with
  | nil => exact h
  | cons n more ih => exact ih (nodup_addFacet h n)

theorem addFacets_append (facets more more' : List UInt32) :
    addFacets facets (more ++ more') = addFacets (addFacets facets more) more' :=
  List.foldl_append

namespace FacetCache

/-- The facets that have an entry, in the order of their first use. -/
def facets (cache : FacetCache) : List UInt32 :=
  cache.entries.map Prod.fst

theorem findFrom_eq_none_iff {facet : UInt32} {start : Nat}
    {entries : List (UInt32 × TypeDescriptor)} :
    findFrom facet start entries = none ↔ facet ∉ entries.map Prod.fst := by
  induction entries generalizing start with
  | nil => simp [findFrom]
  | cons entry entries ih =>
      rw [findFrom, List.map_cons, List.mem_cons, not_or]
      split
      · rename_i hkey
        simp [hkey]
      · rename_i hkey
        rw [ih]
        exact ⟨fun h => ⟨fun hfacet => hkey hfacet.symm, h⟩, And.right⟩

theorem facets_getOrCreate (cache : FacetCache) (facet : Option UInt32) :
    (cache.getOrCreate facet).2.facets = addFacets cache.facets facet.toList := by
  cases facet with
  | none => rfl
  | some n =>
      change _ = addFacet cache.facets n
      unfold getOrCreate addFacet
      cases hfind : cache.find? n with
      | none =>
          have hmem : n ∉ cache.facets := findFrom_eq_none_iff.1 hfind
          simp only [hfind, if_neg hmem]
          exact List.map_append
      | some found =>
          have hmem : n ∈ cache.facets := by
            by_contra h
            rw [find?, findFrom_eq_none_iff.2 h] at hfind
            cases hfind
          simp only [hfind, if_pos hmem]

end FacetCache

def MappingSource.facets (source : MappingSource) : List UInt32 :=
  source.text.facets

def DataType.textLength? (t : DataType) : Option UInt32 :=
  if t.base = .text then t.maxLength else none

theorem MappingSource.facets_findMapping (source : MappingSource) (t : DataType) :
    (source.findMapping t).2.facets = addFacets source.facets t.textLength?.toList := by
  rw [snd_findMapping, DataType.textLength?]
  split
  · exact source.text.facets_getOrCreate t.maxLength
  · rfl

/-! ## Lengths and store types of casts -/

namespace CastSite

/-- The length of a cast, which only casts to text have. -/
def length? (config : Config) (site : CastSite) : Option UInt32 :=
  config.castLength? site.target

def storeName? (config : Config) (site : CastSite) : Option String :=
  config.castStoreName? site.target

theorem facets_findMapping (config : Config) (site : CastSite) (source : MappingSource) :
    (source.findMapping (config.castTarget site.target)).2.facets =
      addFacets source.facets (site.length? config).toList := by
  have hlength : (config.castTarget site.target).textLength? = site.length? config := by
    rw [DataType.textLength?, config.base_castTarget]
    split
    · rename_i htext
      exact config.maxLength_castTarget site.target htext
    · rename_i htext
      rw [length?, Config.castLength?, if_neg htext]
  rw [source.facets_findMapping, hlength]

theorem storeName?_of_storeType? {config : Config} {site : CastSite} {descriptor : TypeDescriptor}
    (h : (config.castTarget site.target).storeType? = some descriptor) :
    site.storeName? config = some descriptor.storeType := by
  rw [config.storeType?_castTarget] at h
  obtain ⟨name, hname, rfl⟩ := Option.map_eq_some_iff.1 h
  exact hname

end CastSite

/-! ## Sites -/

/-- What lowering does at a node after its children: it resolves a cast, or offers a call to the
rules. -/
inductive Site where
  | cast (c : CastSite)
  | call (call : MethodCall)

def Site.cast? : Site → Option CastSite
  | cast c => some c
  | call _ => none

namespace Expr

mutual

/-- The casts and calls of an expression, those of the children before the one of the parent, in
order. -/
def sites : Expr → List Site
  | column _ _ => []
  | literal _ => []
  | methodCall t m receiver args =>
    sitesOption receiver ++ (sitesList args ++ [.call ⟨t, m, receiver, args⟩])
  | function _ args => sitesList args
  | binary _ left right => left.sites ++ right.sites
  | cast target _ operand => operand.sites ++ [.cast ⟨target, operand⟩]
  | index array subscripts _ => array.sites ++ sitesList subscripts

def sitesOption : Option Expr → List Site
  | none => []
  | some e => e.sites

def sitesList : List Expr → List Site
  | [] => []
  | e :: es => e.sites ++ sitesList es

end

theorem sitesOption_eq (receiver : Option Expr) :
    sitesOption receiver = receiver.toList.flatMap sites := by
  cases receiver with
  | none => rfl
  | some e => simp [sitesOption]

theorem sitesList_eq (es : List Expr) : sitesList es = es.flatMap sites := by
  induction es with
  | nil => rfl
  | cons e es ih => rw [sitesList, ih, List.flatMap_cons]

def rootSite? : Expr → Option Site
  | methodCall t m receiver args => some (.call ⟨t, m, receiver, args⟩)
  | cast target _ operand => some (.cast ⟨target, operand⟩)
  | _ => none

/-- The sites of the children come first, in order, and then the one of the root. -/
theorem sites_eq (e : Expr) : e.sites = e.children.flatMap sites ++ e.rootSite?.toList := by
  cases e <;> simp [sites, children, rootSite?, sitesOption_eq, sitesList_eq]

theorem rootCast?_eq (e : Expr) : e.rootCast? = e.rootSite?.bind Site.cast? := by
  cases e <;> rfl

theorem filterMap_cast?_sites (e : Expr) : e.sites.filterMap Site.cast? = e.casts := by
  induction e using induct_children with
  | h e ih =>
      have hroot : e.rootSite?.toList.filterMap Site.cast? = e.rootCast?.toList := by
        rw [rootCast?_eq]
        cases e.rootSite? with
        | none => rfl
        | some site => cases site <;> rfl
      rw [sites_eq, casts_eq, List.filterMap_append, hroot, List.filterMap_flatMap,
        List.flatMap_congr ih]

theorem mem_methodCalls_of_mem_sites {call : MethodCall} {e : Expr}
    (h : Site.call call ∈ e.sites) : call ∈ e.methodCalls := by
  induction e using induct_children with
  | h e ih =>
      rw [sites_eq, List.mem_append, List.mem_flatMap, Option.mem_toList] at h
      rcases h with ⟨child, hchild, h⟩ | h
      · exact methodCalls_subset_of_mem_children hchild (ih child hchild h)
      · cases e with
        | methodCall t m receiver args =>
            cases h
            exact List.mem_cons_self ..
        | _ => cases h

end Expr

/-! ## Where lowering ends early -/

namespace MethodCall

/-- The call with its operands lowered. -/
def lowered (registry : Registry) (config : Config) (call : MethodCall) :
    Except CompileFailure MethodCall := do
  let receiver ← Expr.loweredOption registry config call.receiver
  let args ← Expr.loweredList registry config call.args
  return { call with receiver, args }

def aborts (registry : Registry) (config : Config) (call : MethodCall) : Bool :=
  match call.lowered registry config with
  | .error _ => false
  | .ok call' =>
    match registry.translate call' with
    | .aborted _ => true
    | .replaced _ | .declined => false

end MethodCall

/-- Whether lowering ends at a site. -/
def Site.stops (registry : Registry) (config : Config) : Site → Bool
  | cast c => c.target.isHostOnly
  | call c => c.aborts registry config

/-- The sites before the first one at which lowering ends. -/
def reached (registry : Registry) (config : Config) (sites : List Site) : List Site :=
  sites.takeWhile fun site => !site.stops registry config

/-- The casts that are resolved when an expression is lowered. -/
def Expr.resolvedCasts (registry : Registry) (config : Config) (e : Expr) : List CastSite :=
  (reached registry config e.sites).filterMap Site.cast?

def lengths (config : Config) (sites : List Site) : List UInt32 :=
  (sites.filterMap Site.cast?).filterMap (CastSite.length? config)

section Reached

variable {registry : Registry} {config : Config} {sites sites' : List Site}

theorem reached_eq_self (h : ∀ site ∈ sites, site.stops registry config = false) :
    reached registry config sites = sites :=
  List.takeWhile_eq_self_iff.2 fun site hsite => by rw [h site hsite]; rfl

theorem reached_append (h : ∀ site ∈ sites, site.stops registry config = false) :
    reached registry config (sites ++ sites') = sites ++ reached registry config sites' :=
  List.takeWhile_append_of_pos fun site hsite => by rw [h site hsite]; rfl

/-- What follows is not reached when something stops. -/
theorem reached_append_of_stops (h : ¬ ∀ site ∈ sites, site.stops registry config = false) :
    reached registry config (sites ++ sites') = reached registry config sites := by
  unfold reached
  rw [List.takeWhile_append, if_neg]
  intro hlength
  refine h fun site hsite => ?_
  have hself := (List.takeWhile_prefix _).eq_of_length hlength
  simpa using List.takeWhile_eq_self_iff.1 hself site hsite

end Reached

/-! ## Visiting sites -/

/-- A computation with this answer comes to some sites in order: it leaves the lengths of the casts
before the first site that stops it in the cache, and it succeeds when none does. -/
structure Lowering.Visits {α : Type} (registry : Registry) (config : Config) (sites : List Site)
    (x : Lowering α) (r : Except CompileFailure α) : Prop where
  facets : ∀ source : MappingSource, source.Faithful → (x.run source).2.facets =
    addFacets source.facets (lengths config (reached registry config sites))
  succeeds : (∃ a, r = .ok a) ↔ ∀ site ∈ sites, site.stops registry config = false

namespace Lowering

variable {registry : Registry} {config : Config} {α β : Type}

theorem visits_pure (a : α) : (pure a : Lowering α).Visits registry config [] (.ok a) :=
  ⟨fun _ _ => rfl, ⟨fun _ _ hsite => absurd hsite List.not_mem_nil, fun _ => ⟨a, rfl⟩⟩⟩

theorem Visits.bind {x : Lowering α} {f : α → Lowering β} {r : Except CompileFailure α}
    {g : α → Except CompileFailure β} {sites sites' : List Site} (hr : x.Answers r)
    (hx : x.Visits registry config sites r)
    (hf : ∀ a, r = .ok a → (f a).Visits registry config sites' (g a)) :
    (x >>= f).Visits registry config (sites ++ sites') (r >>= g) := by
  cases r with
  | error failure =>
      have hstops : ¬ ∀ site ∈ sites, site.stops registry config = false := fun h => by
        obtain ⟨a, ha⟩ := hx.succeeds.2 h
        cases ha
      constructor
      · intro source hsource
        have hfacets := hx.facets source hsource
        obtain ⟨hfailure, -⟩ := hr source hsource
        rw [run_bind, reached_append_of_stops hstops]
        rcases hrun : x.run source with ⟨answer, source'⟩
        rw [hrun] at hfailure hfacets
        obtain rfl : answer = .error failure := hfailure
        exact hfacets
      · constructor
        · rintro ⟨b, hb⟩
          cases hb
        · exact fun h => absurd (fun site hsite => h site (List.mem_append_left _ hsite)) hstops
  | ok a =>
      have hgo := hx.succeeds.1 ⟨a, rfl⟩
      have hrest := hf a rfl
      constructor
      · intro source hsource
        have hfacets := hx.facets source hsource
        obtain ⟨hok, hsource'⟩ := hr source hsource
        rw [run_bind, reached_append hgo, lengths, List.filterMap_append, List.filterMap_append,
          addFacets_append]
        rcases hrun : x.run source with ⟨answer, source'⟩
        rw [hrun] at hok hfacets hsource'
        obtain rfl : answer = .ok a := hok
        have hsites : source'.facets = addFacets source.facets (lengths config sites) := by
          rwa [reached_eq_self hgo] at hfacets
        have := hrest.facets source' hsource'
        rwa [hsites] at this
      · refine hrest.succeeds.trans ⟨fun h site hsite => ?_, fun h site hsite =>
          h site (List.mem_append_right _ hsite)⟩
        exact (List.mem_append.1 hsite).elim (hgo site) (h site)

theorem Visits.map {x : Lowering α} {r : Except CompileFailure α} {sites : List Site}
    (hr : x.Answers r) (hx : x.Visits registry config sites r) (f : α → β) :
    (x >>= fun a => pure (f a)).Visits registry config sites (r >>= fun a => pure (f a)) := by
  have h := hx.bind hr fun a _ => visits_pure (f a)
  rwa [List.append_nil] at h

end Lowering

open Lowering

section Steps

variable {registry : Registry} {config : Config}

/-- A cast that lowering ends at has no length. -/
theorem lengths_reached_cast (site : CastSite) :
    lengths config (reached registry config [.cast site]) = (site.length? config).toList := by
  cases hhost : site.target.isHostOnly with
  | true =>
      have hbase : site.target.base ≠ .text := by
        intro hbase
        simp [DataType.isHostOnly, hbase] at hhost
      rw [CastSite.length?, Config.castLength?, if_neg hbase, reached, List.takeWhile_cons_of_neg]
      · rfl
      · simp [Site.stops, hhost]
  | false =>
      rw [reached_eq_self fun s hs => ?_]
      · cases hlength : site.length? config <;> simp [lengths, Site.cast?, hlength]
      · rw [List.mem_singleton.1 hs]
        exact hhost

theorem resolveCast_visits (site : CastSite) (operand : Expr) :
    (resolveCast config site.target operand).Visits registry config [.cast site]
      (config.resolvedCast site.target operand) := by
  constructor
  · intro source _
    have hfacets := site.facets_findMapping config source
    rw [lengths_reached_cast, resolveCast, run_bind, run_askMapping]
    cases (source.findMapping (config.castTarget site.target)).1 with
    | none => exact hfacets
    | some mapping => exact hfacets
  · have hstops : (config.castTarget site.target).storeType? = none ↔
        Site.stops registry config (.cast site) = true := by
      rw [DataType.storeType?_eq_none_iff, config.isHostOnly_castTarget]
      rfl
    rw [List.forall_mem_singleton, Config.resolvedCast]
    cases hstore : (config.castTarget site.target).storeType? with
    | none => simp [hstops.1 hstore]
    | some descriptor =>
        rw [hstore] at hstops
        simpa using hstops

theorem lengths_reached_call (call : MethodCall) :
    lengths config (reached registry config [.call call]) = [] := by
  unfold reached
  rw [List.takeWhile_cons]
  split <;> rfl

theorem lowerCall_visits {call call' : MethodCall}
    (h : call.lowered registry config = .ok call') :
    (lowerCall registry call').Visits registry config [.call call] (registry.answer call') := by
  constructor
  · intro source _
    rw [lengths_reached_call, lowerCall]
    cases registry.translate call' <;> rfl
  · rw [List.forall_mem_singleton, Registry.answer]
    simp only [Site.stops, MethodCall.aborts, h]
    cases registry.translate call' <;> simp

namespace Expr

theorem lowerOption_visits (receiver : Option Expr)
    (h : ∀ x ∈ receiver, (x.lower registry config).Visits registry config x.sites
      (x.lowered registry config)) :
    (lowerOption registry config receiver).Visits registry config (sitesOption receiver)
      (loweredOption registry config receiver) := by
  cases receiver with
  | none => exact visits_pure none
  | some e =>
      rw [lowerOption, loweredOption]
      exact (h e rfl).map (e.lower_answers registry config) some

theorem lowerList_visits (es : List Expr)
    (h : ∀ x ∈ es, (x.lower registry config).Visits registry config x.sites
      (x.lowered registry config)) :
    (lowerList registry config es).Visits registry config (sitesList es)
      (loweredList registry config es) := by
  induction es with
  | nil => exact visits_pure []
  | cons e es ih =>
      have hes := ih fun x hx => h x (List.mem_cons_of_mem e hx)
      have hanswers := lowerList_answers registry config es fun x _ =>
        x.lower_answers registry config
      rw [lowerList, loweredList]
      exact (h e (List.mem_cons_self ..)).bind (e.lower_answers registry config) fun e' _ =>
        hes.map hanswers fun es' => e' :: es'

/-- **Lowering visits the sites of the expression.** -/
theorem lower_visits (e : Expr) : (e.lower registry config).Visits registry config e.sites
    (e.lowered registry config) := by
  have hanswers : ∀ x : Expr, (x.lower registry config).Answers (x.lowered registry config) :=
    fun x => x.lower_answers registry config
  have hanswersList : ∀ es : List Expr,
      (lowerList registry config es).Answers (loweredList registry config es) :=
    fun es => lowerList_answers registry config es fun x _ => hanswers x
  induction e with
  | column name type => exact visits_pure (column name type)
  | literal value => exact visits_pure (literal value)
  | methodCall t m receiver args hreceiver hargs =>
      have hanswersOption := lowerOption_answers registry config receiver fun x _ => hanswers x
      rw [lower, lowered, sites]
      refine (lowerOption_visits receiver hreceiver).bind hanswersOption fun receiver' hr => ?_
      refine (lowerList_visits args hargs).bind (hanswersList args) fun args' has => ?_
      refine lowerCall_visits ?_
      rw [MethodCall.lowered, hr, has]
      rfl
  | function name args hargs =>
      rw [lower, lowered, sites]
      exact (lowerList_visits args hargs).map (hanswersList args) (function name)
  | binary operator left right hleft hright =>
      rw [lower, lowered, sites]
      exact hleft.bind (hanswers left) fun left' _ =>
        hright.map (hanswers right) (binary operator left')
  | cast target storeType operand hoperand =>
      rw [lower, lowered, sites]
      exact hoperand.bind (hanswers operand) fun operand' _ =>
        resolveCast_visits ⟨target, operand⟩ operand'
  | index array subscripts origin harray hsubscripts =>
      rw [lower, lowered, sites]
      exact harray.bind (hanswers array) fun array' _ =>
        (lowerList_visits subscripts hsubscripts).map (hanswersList subscripts) fun subscripts' =>
          indexFromOne array' subscripts' origin

end Expr

end Steps

/-! ## Resolved casts -/

section Resolved

variable {registry : Registry} {config : Config}

/-- When no rule aborts, the casts that are reached are those before the first one to a type of the
host side. -/
theorem filterMap_reached {sites : List Site}
    (h : ∀ call, Site.call call ∈ sites → call.aborts registry config = false) :
    (reached registry config sites).filterMap Site.cast? =
      (sites.filterMap Site.cast?).takeWhile fun site => !site.target.isHostOnly := by
  unfold reached
  induction sites with
  | nil => rfl
  | cons site sites ih =>
      have hsites := ih fun call hcall => h call (List.mem_cons_of_mem _ hcall)
      rw [List.takeWhile_cons]
      cases site with
      | call call =>
          have hgo : (Site.call call).stops registry config = false :=
            h call (List.mem_cons_self ..)
          rw [hgo]
          exact hsites
      | cast c =>
          change _ = List.takeWhile _ (c :: sites.filterMap Site.cast?)
          rw [List.takeWhile_cons]
          change List.filterMap _ (if (!c.target.isHostOnly) = true then _ else _) = _
          split
          · exact congrArg (c :: ·) hsites
          · rfl

theorem resolvedCasts_eq_takeWhile {e : Expr}
    (h : ∀ call ∈ e.methodCalls, call.aborts registry config = false) :
    e.resolvedCasts registry config = e.casts.takeWhile fun site => !site.target.isHostOnly := by
  rw [← e.filterMap_cast?_sites]
  exact filterMap_reached fun call hcall => h call (Expr.mem_methodCalls_of_mem_sites hcall)

theorem resolvedCasts_of_lowered {e e' : Expr} (h : e.lowered registry config = .ok e') :
    e.resolvedCasts registry config = e.casts := by
  rw [Expr.resolvedCasts, reached_eq_self (e.lower_visits.succeeds.1 ⟨e', h⟩),
    e.filterMap_cast?_sites]

/-- Compiling leaves the lengths of the casts that are resolved, whatever comes of it. -/
theorem facets_run_compile {source : MappingSource} (h : source.Faithful) (e : Expr) :
    ((compile registry config e).run source).2.facets =
      addFacets source.facets
        ((e.resolvedCasts registry config).filterMap (CastSite.length? config)) := by
  have hvisits : (e.lower registry config).Visits registry config e.sites _ := e.lower_visits
  have hfacets := hvisits.facets source h
  rw [compile, run_bind]
  rcases hrun : (e.lower registry config).run source with ⟨_ | e', source'⟩
  · rw [hrun] at hfacets
    exact hfacets
  · rw [hrun] at hfacets
    exact hfacets

end Resolved

end SqlLowering
