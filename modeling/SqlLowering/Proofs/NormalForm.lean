import SqlLowering.Proofs.CastTypes
import SqlLowering.Proofs.Sessions
import SqlLowering.Proofs.Shifts

/-!
# Compiled expressions are in normal form

At no node of a compiled expression is anything left to do: each access counts from one, each cast
has the store type of its target, and each call is one that no active module translates. This has
to be shown of the whole tree, for what a rule puts in the place of a call is not lowered again. It
holds because a rule only puts a function or an operator over operands that are in normal form
already, and a shift only adds constants and sums.

`Expr.Everywhere` says that something holds at each node of an expression; it then holds at the root
and everywhere in the children. Rules and shifts keep what also holds of the nodes that shifts add
(`Expr.HoldsOfShifts`), for instance that each store type is one of the mappings
(`Expr.MappedCast`).
-/

namespace SqlLowering

open BundledModule (registry activeForm? translate_registry)

namespace Expr

/-- Something holds at every node of an expression. -/
def Everywhere (p : Expr → Prop) (e : Expr) : Prop :=
  ∀ x : Expr, x.NodeOf e → p x

theorem everywhere_iff {p : Expr → Prop} {e : Expr} :
    e.Everywhere p ↔ p e ∧ ∀ child ∈ e.children, child.Everywhere p := by
  constructor
  · intro h
    exact ⟨h e .root, fun child hchild x hx => h x (.inside hchild hx)⟩
  · rintro ⟨hroot, hchildren⟩ x hx
    cases hx with
    | root => exact hroot
    | inside hchild hx => exact hchildren _ hchild x hx

theorem everywhere_congr {p : Expr → Prop} {e e' : Expr} (hroot : p e ↔ p e')
    (hchildren : (∀ x ∈ e.children, x.Everywhere p) ↔ ∀ x ∈ e'.children, x.Everywhere p) :
    e.Everywhere p ↔ e'.Everywhere p := by
  rw [everywhere_iff, everywhere_iff, hroot, hchildren]

instance decidableEverywhere (p : Expr → Prop) [DecidablePred p] (e : Expr) :
    Decidable (e.Everywhere p) :=
  decidable_of_iff (∀ x ∈ e.nodes, p x) (forall_congr' fun _ => imp_congr_left mem_nodes_iff)

theorem everywhere_binary {p : Expr → Prop} {operator : String} {left right : Expr} :
    (binary operator left right).Everywhere p ↔
      p (binary operator left right) ∧ left.Everywhere p ∧ right.Everywhere p := by
  rw [everywhere_iff, children, List.forall_mem_cons, List.forall_mem_singleton]

end Expr

/-! ## Nothing left to do -/

/-- Nothing is left to do for the session at a node: an access counts from one, a cast has the store
type that the length that applies to it has, and the mappings have the same one, and a call is one
that no rule translates. -/
def Session.Settles (s : Session) (d : Depot) : Expr → Prop
  | .methodCall t m receiver args => s.translate d ⟨t, m, receiver, args⟩ = .declined
  | .cast target storeType _ =>
    storeType.isSome ∧ storeType = s.config.castDescriptor? target ∧
      storeType = ((d.get s.container).mappings.findMapping
        ⟨target.base, s.config.castLength? target⟩).1.map MappingSource.Mapping.descriptor
  | .index _ _ origin => origin = .one
  | _ => True

namespace Expr

/-! ## Shifted positions and native forms -/

/-- What holds of the nodes that a shift adds: constants, sums, and accesses that count from one. -/
structure HoldsOfShifts (p : Expr → Prop) : Prop where
  literal : ∀ value, p (.literal value)
  sum : ∀ left right, p (.binary "+" left right)
  index : ∀ array subscripts, p (.index array subscripts .one)

section Shifts

variable {p : Expr → Prop} (hp : HoldsOfShifts p)
include hp

theorem everywhere_literal (value : Scalar) : (literal value).Everywhere p :=
  everywhere_iff.2 ⟨hp.literal value, fun child hchild => by cases hchild⟩

theorem everywhere_oneBased {e : Expr} (h : e.Everywhere p) : e.oneBased.Everywhere p := by
  cases hinteger : e.integer? with
  | some n =>
      obtain ⟨value, hvalue⟩ := exists_oneBased_eq_literal hinteger
      rw [hvalue]
      exact everywhere_literal hp value
  | none =>
      rw [oneBased_of_integer?_eq_none hinteger]
      exact everywhere_binary.2 ⟨hp.sum _ _, h, everywhere_literal hp _⟩

theorem everywhere_shiftLast {es : List Expr} (h : ∀ x ∈ es, x.Everywhere p) :
    ∀ x ∈ shiftLast es, x.Everywhere p := by
  induction es using shiftLast.induct with
  | case1 => exact h
  | case2 e =>
      rw [shiftLast, List.forall_mem_singleton]
      exact everywhere_oneBased hp (h e (List.mem_singleton_self e))
  | case3 e e' es ih =>
      rw [List.forall_mem_cons] at h
      rw [shiftLast, List.forall_mem_cons]
      exact ⟨h.1, ih h.2⟩

theorem everywhere_oneBasedList {es : List Expr} (h : ∀ x ∈ es, x.Everywhere p) :
    ∀ x ∈ oneBasedList es, x.Everywhere p := by
  intro x hx
  cases hconstants : constants? es with
  | some ns =>
      rw [oneBasedList_of_constants? hconstants] at hx
      obtain ⟨value, -, rfl⟩ := List.mem_map.1 hx
      exact everywhere_literal hp value
  | none =>
      rw [oneBasedList, hconstants] at hx
      obtain ⟨y, hy, rfl⟩ := List.mem_map.1 hx
      exact everywhere_oneBased hp (h y hy)

theorem everywhere_indexFromOne {array : Expr} {subscripts : List Expr} (origin : Origin)
    (harray : array.Everywhere p) (hsubscripts : ∀ x ∈ subscripts, x.Everywhere p) :
    (indexFromOne array subscripts origin).Everywhere p := by
  cases origin with
  | one => exact everywhere_iff.2 ⟨hp.index _ _, List.forall_mem_cons.2 ⟨harray, hsubscripts⟩⟩
  | zero =>
      exact everywhere_iff.2
        ⟨hp.index _ _, List.forall_mem_cons.2 ⟨harray, everywhere_oneBasedList hp hsubscripts⟩⟩

/-- A form puts a function or an operator over its operands. -/
theorem everywhere_of_apply {form : NativeForm} {es : List Expr} {e : Expr}
    (h : form.apply es = .replaced e) (hroot : p e) (hes : ∀ x ∈ es, x.Everywhere p) :
    e.Everywhere p := by
  rcases NativeForm.apply_eq_replaced h with ⟨name, rfl, rfl⟩ | ⟨symbol, l, r, rfl, rfl, rfl⟩ |
    ⟨name, rfl, rfl⟩
  · exact everywhere_iff.2 ⟨hroot, hes⟩
  · exact everywhere_binary.2 ⟨hroot, hes l (by simp), hes r (by simp)⟩
  · exact everywhere_iff.2 ⟨hroot, everywhere_shiftLast hp hes⟩

end Shifts

/-! ## Native forms of expressions -/

variable {s : Session} {d : Depot} {ms : List BundledModule}

theorem settles_shifts (s : Session) (d : Depot) : HoldsOfShifts (s.Settles d) :=
  ⟨fun _ => trivial, fun _ _ => trivial, fun _ _ => rfl⟩

theorem settles_of_apply {form : NativeForm} {es : List Expr} {e : Expr}
    (h : form.apply es = .replaced e) : s.Settles d e := by
  rcases NativeForm.apply_eq_replaced h with ⟨_, _, rfl⟩ | ⟨_, _, _, _, _, rfl⟩ | ⟨_, _, rfl⟩
  · trivial
  · trivial
  · trivial

theorem forall_mem_of_forall₂ {q : Expr → Prop} {es es' : List Expr}
    (h : List.Forall₂ (fun _ x' => q x') es es') : ∀ x' ∈ es', q x' := by
  induction h with
  | nil => simp
  | cons hx _ ih => exact List.forall_mem_cons.2 ⟨hx, ih⟩

/-- **In a native form there is nothing left to do.** -/
theorem everywhere_lowered (hs : s.Uses d ms) {e e' : Expr}
    (h : e.lowered (registry ms) s.config = .ok e') : e'.Everywhere (s.Settles d) := by
  refine lowered_induction (P := fun _ e' => e'.Everywhere (s.Settles d))
    ?column ?literal ?kept ?translated ?function ?binary ?cast ?index h
  case column =>
    intro name type
    exact everywhere_iff.2 ⟨trivial, fun child hchild => by cases hchild⟩
  case literal =>
    intro value
    exact everywhere_literal (settles_shifts s d) value
  case kept =>
    intro t m r r' as as' hr has hform _
    refine everywhere_iff.2 ⟨?_, forall_mem_of_forall₂ (forall₂_operands hr has)⟩
    -- The call that is left has the shape of the call that was not recognised.
    rw [← shape_eq_of_rel t m hr has] at hform
    change s.translate d ⟨t, m, r', as'⟩ = .declined
    rw [hs.translate_eq, translate_registry, hform]
  case translated =>
    intro t m r as operands form e hoperands _ _ happly
    -- What replaces a call is not lowered again, but its operands are native forms already.
    exact everywhere_of_apply (settles_shifts s d) happly (settles_of_apply happly)
      (forall_mem_of_forall₂ hoperands)
  case function =>
    intro name as as' has
    exact everywhere_iff.2 ⟨trivial, forall_mem_of_forall₂ has⟩
  case binary =>
    intro operator l r l' r' hl hr
    exact everywhere_binary.2 ⟨trivial, hl, hr⟩
  case cast =>
    intro target storeType x x' descriptor hx hstore
    rw [s.config.storeType?_castTarget] at hstore
    refine everywhere_iff.2 ⟨⟨rfl, hstore.symm, ?_⟩, List.forall_mem_singleton.2 hx⟩
    rw [hs.faithful.descriptor_findMapping, s.config.storeType?_castLength, hstore]
  case index =>
    intro a a' is is' origin ha his _
    exact everywhere_indexFromOne (settles_shifts s d) origin ha (forall_mem_of_forall₂ his)

/-! ## Store types -/

/-- The store type of a cast, once there is one, is that of the data type it describes. -/
def MappedCast : Expr → Prop
  | cast _ (some descriptor) _ => descriptor.dataType.storeType? = some descriptor
  | _ => True

instance : DecidablePred MappedCast
  | cast _ (some descriptor) _ =>
    inferInstanceAs (Decidable (descriptor.dataType.storeType? = some descriptor))
  | cast _ none _ => isTrue trivial
  | column _ _ | literal _ | methodCall _ _ _ _ | function _ _ | binary _ _ _ | index _ _ _ =>
    isTrue trivial

/-- Where nothing is left to do, a cast has its store type from the mappings. -/
theorem mappedCast_of_settles {s : Session} {d : Depot} (hs : s.Uses d ms) {x : Expr}
    (h : s.Settles d x) : x.MappedCast := by
  cases x with
  | cast target storeType x =>
      cases storeType with
      | none => trivial
      | some descriptor =>
          have hstore := h.2.2
          rw [hs.faithful.descriptor_findMapping] at hstore
          exact DataType.storeType?_dataType hstore.symm
  | _ => trivial

end Expr

/-! ## Sessions -/

/-- The call of the text of a part that the geometry module leaves, in native form. -/
def MethodCall.distance : MethodCall :=
  ⟨.dbFunctions, "Levenshtein", none,
    [.column "name" .text,
      .index (.column "names" .collection)
        [.literal (.int32 8), .binary "+" (.column "i" .int32) (.literal (.int32 1))] .one]⟩

namespace Session

/-- **Compiled expressions are in normal form**: nothing is left to do at any node, and with strict
translation no node is a call. -/
theorem compile_settles {s : Session} {d : Depot} {ms : List BundledModule} {e : Expr}
    {out : Compiled} (hs : s.Uses d ms) (hout : (s.compile d e).1 = .ok out) :
    (∀ x : Expr, x.NodeOf out.expr → s.Settles d x) ∧
    (s.config.strictTranslation = true → ∀ call : MethodCall, ¬ call.toExpr.NodeOf out.expr) := by
  rw [hs.compile_fst] at hout
  refine ⟨Expr.everywhere_lowered hs (compiled_eq_ok hout).1, fun hstrict call hcall => ?_⟩
  have hmem := hcall.mem_methodCalls
  rw [methodCalls_eq_nil_of_strict hstrict hout] at hmem
  cases hmem

/-- A call is left inside a function inside a cast, and its subscripts are shifted; with strict
translation none is left, and the cast has the default length. -/
theorem compile_settles_textOfPart :
    (∃ out : Compiled, ((ofModules [.geometry] ⟨"", false, none⟩).compile
        (.ofModules [.geometry]) .textOfPart).1 = .ok out ∧
      MethodCall.distance.toExpr.NodeOf out.expr ∧
      (ofModules [.geometry] ⟨"", false, none⟩).translate (.ofModules [.geometry]) .distance =
        .declined) ∧
    ∃ out : Compiled, ((ofModules [.geometry, .fuzzyMatch] ⟨"", true, some 20⟩).compile
        (.ofModules [.geometry, .fuzzyMatch]) .textOfPart).1 = .ok out ∧
      (∃ storeType part, out.expr = .cast ⟨.text, none⟩ storeType part ∧
        storeType = some ⟨.text, "character varying(20)", some 20⟩) ∧
      ∀ call : MethodCall, ¬ call.toExpr.NodeOf out.expr := by
  have hnode : MethodCall.distance.toExpr.NodeOf
      (.cast ⟨.text, none⟩ (some unboundedText) (.function "ST_GeometryN"
        [.column "shape" .geometry, MethodCall.distance.toExpr.oneBased])) := by
    refine .inside (List.mem_singleton_self _) ?_
    refine .inside (List.mem_cons_of_mem _ (List.mem_singleton_self _)) ?_
    exact .inside (List.mem_cons_self ..) .root
  constructor
  · have hout : ((ofModules [.geometry] ⟨"", false, none⟩).compile (.ofModules [.geometry])
        .textOfPart).1 = .ok ⟨_, _, _⟩ := rfl
    exact ⟨_, hout, hnode, (compile_settles (ofModules_uses _ _) hout).1 _ hnode⟩
  · have hout : ((ofModules [.geometry, .fuzzyMatch] ⟨"", true, some 20⟩).compile
        (.ofModules [.geometry, .fuzzyMatch]) .textOfPart).1 = .ok ⟨_, _, _⟩ := rfl
    obtain ⟨hsettles, hstrict⟩ := compile_settles (ofModules_uses _ _) hout
    exact ⟨_, hout, ⟨_, _, rfl, (hsettles _ .root).2.1⟩, hstrict rfl⟩

end Session

end SqlLowering
