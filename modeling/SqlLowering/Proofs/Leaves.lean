import SqlLowering.Proofs.Sessions
import SqlLowering.Proofs.Shifts

/-!
# The leaves of compiled expressions

The leaves of an expression are its columns and constants, from left to right. Compilation moves
none of them: a call becomes a function or an operator of the same operands in the same order. It
only counts positions from one. `Expr.changes` says what this does to the leaves of a source,
without compiling it: at a position, an integer constant is shifted, and behind anything else stands
a one that was not there. Positions are the subscripts of an access that counts from zero, and the
argument of a call that picks an element of a geometry, if such calls are translated
(`takesPosition_iff`).

* `LeafChange.Yields` : what a leaf and its change come to in the compiled expression;
* `Expr.forall₂_changes` : by induction over the lowering, the leaves of a native form are what the
  changes yield;
* `Expr.filterMap_source?_changes` : by induction over the source, the changes speak of all its
  leaves, in order.
-/

namespace SqlLowering

open BundledModule (registry activeForm?)

/-! ## Leaves -/

inductive Leaf where
  | column (name : String) (type : ValueType)
  | constant (value : Scalar)
deriving DecidableEq

def Leaf.integer? : Leaf → Option Int64
  | column _ _ => none
  | constant value => value.toInt64?

namespace Expr

mutual

/-- The columns and constants from left to right: a receiver before the arguments, a left side
before the right one, and an array before its subscripts. -/
def leaves : Expr → List Leaf
  | column name type => [.column name type]
  | literal value => [.constant value]
  | methodCall _ _ r as => leavesOption r ++ leavesList as
  | function _ as => leavesList as
  | binary _ l r => l.leaves ++ r.leaves
  | cast _ _ x => x.leaves
  | index a is _ => a.leaves ++ leavesList is

def leavesOption : Option Expr → List Leaf
  | none => []
  | some e => e.leaves

def leavesList : List Expr → List Leaf
  | [] => []
  | e :: es => e.leaves ++ leavesList es

end

theorem leavesOption_eq (r : Option Expr) : leavesOption r = r.toList.flatMap leaves := by
  cases r with
  | none => rfl
  | some e => simp [leavesOption]

theorem leavesList_eq (es : List Expr) : leavesList es = es.flatMap leaves := by
  induction es with
  | nil => rfl
  | cons e es ih => rw [leavesList, ih, List.flatMap_cons]

theorem leaves_methodCall (t : ValueType) (m : String) (r : Option Expr) (as : List Expr) :
    (methodCall t m r as).leaves = (r.toList ++ as).flatMap leaves := by
  rw [leaves, leavesOption_eq, leavesList_eq, List.flatMap_append]

end Expr

/-! ## Positions -/

/-- The calls whose argument is a position: those that pick an element of a geometry. -/
def CallShape.positions : List CallShape :=
  [⟨.geometry, "GetGeometryN", 1, false⟩, ⟨.geometry, "GetPointN", 1, false⟩]

/-- Whether the call is translated to a function that takes its argument for a position. -/
def MethodCall.takesPosition (ms : List BundledModule) (call : MethodCall) : Bool :=
  decide (BundledModule.geometry ∈ ms ∧ call.shape ∈ CallShape.positions)

/-- Whether a form takes its last operand for a position. -/
def NativeForm.isPositional : NativeForm → Bool
  | positional _ => true
  | _ => false

/-- The forms with a position stand beside these shapes and no others. -/
theorem BundledModule.isPositional_entries :
    (∀ m ∈ all, ∀ entry ∈ m.table, entry.2.isPositional = true →
      m = geometry ∧ entry.1.shape ∈ CallShape.positions) ∧
    ∀ shape ∈ CallShape.positions, ∃ entry ∈ geometry.table,
      entry.1.shape = shape ∧ entry.2.isPositional = true := by
  decide

theorem MethodCall.takesPosition_iff {ms : List BundledModule} {call : MethodCall} :
    call.takesPosition ms = true ↔
      ∃ form, activeForm? ms call.shape = some form ∧ form.isPositional = true := by
  rw [takesPosition, decide_eq_true_iff]
  constructor
  · rintro ⟨hm, hshape⟩
    obtain ⟨entry, hentry, hentryShape, hform⟩ :=
      BundledModule.isPositional_entries.2 call.shape hshape
    exact ⟨entry.2, BundledModule.activeForm?_eq_some_iff.2
      ⟨_, hm, entry, hentry, hentryShape, rfl⟩, hform⟩
  · rintro ⟨form, h, hform⟩
    obtain ⟨m, hm, entry, hentry, hshape, rfl⟩ := BundledModule.activeForm?_eq_some_iff.1 h
    obtain ⟨rfl, hposition⟩ :=
      BundledModule.isPositional_entries.1 m (BundledModule.mem_all m) entry hentry hform
    exact ⟨hm, hshape ▸ hposition⟩

theorem MethodCall.takesPosition_eq {ms : List BundledModule} {call : MethodCall}
    {form : NativeForm} (h : activeForm? ms call.shape = some form) :
    call.takesPosition ms = form.isPositional := by
  rw [Bool.eq_iff_iff, takesPosition_iff]
  constructor
  · rintro ⟨form', h', hform'⟩
    obtain rfl := Option.some.inj (h.symm.trans h')
    exact hform'
  · intro hform
    exact ⟨form, h, hform⟩

theorem MethodCall.operands_of_takesPosition {ms : List BundledModule} {t : ValueType} {m : String}
    {r : Option Expr} {as : List Expr}
    (h : (MethodCall.mk t m r as).takesPosition ms = true) :
    ∃ receiver position, r = some receiver ∧ as = [position] := by
  have hshape : (MethodCall.mk t m r as).shape ∈ CallShape.positions := (of_decide_eq_true h).2
  have hcounts : ∀ shape ∈ CallShape.positions, shape.arity = 1 ∧ shape.isStatic = false := by
    decide
  obtain ⟨harity, hstatic⟩ := hcounts _ hshape
  obtain ⟨position, rfl⟩ := List.length_eq_one_iff.1 harity
  cases r with
  | none => cases hstatic
  | some receiver => exact ⟨receiver, position, rfl, rfl⟩

/-! ## Changes -/

/-- What compilation does to the leaves of a source. -/
inductive LeafChange where
  | kept (l : Leaf)
  /-- The leaf is a position and counts from one afterwards. -/
  | shifted (l : Leaf)
  /-- A one is added to the position before. -/
  | inserted
deriving DecidableEq

namespace LeafChange

def source? : LeafChange → Option Leaf
  | kept l => some l
  | shifted l => some l
  | inserted => none

/-- The leaf of the compiled expression. -/
inductive Yields : LeafChange → Leaf → Prop
  | kept (l : Leaf) : Yields (.kept l) l
  | shifted {l l' : Leaf} {n n' : Int64} : l.integer? = some n → l'.integer? = some n' →
      n'.toInt = min (n.toInt + 1) Int64.maxValue.toInt → Yields (.shifted l) l'
  | inserted : Yields .inserted (.constant (.int32 1))

end LeafChange

namespace Expr

/-- The changes at a position, given those elsewhere: an integer constant is shifted, and a one is
added to everything else. -/
def atPosition (e : Expr) (changes : List LeafChange) : List LeafChange :=
  if e.integer?.isSome then e.leaves.map .shifted else changes ++ [.inserted]

mutual

/-- The changes of the leaves when some modules are active. -/
def changes (ms : List BundledModule) : Expr → List LeafChange
  | column name type => [.kept (.column name type)]
  | literal value => [.kept (.constant value)]
  | methodCall t m r as =>
    changesOption ms r ++
      if (MethodCall.mk t m r as).takesPosition ms then positionChanges ms as
      else changesList ms as
  | function _ as => changesList ms as
  | binary _ l r => l.changes ms ++ r.changes ms
  | cast _ _ x => x.changes ms
  | index a is .zero => a.changes ms ++ positionChanges ms is
  | index a is .one => a.changes ms ++ changesList ms is

def changesOption (ms : List BundledModule) : Option Expr → List LeafChange
  | none => []
  | some e => e.changes ms

def changesList (ms : List BundledModule) : List Expr → List LeafChange
  | [] => []
  | e :: es => e.changes ms ++ changesList ms es

def positionChanges (ms : List BundledModule) : List Expr → List LeafChange
  | [] => []
  | e :: es => e.atPosition (e.changes ms) ++ positionChanges ms es

end

variable (ms : List BundledModule)

theorem changesOption_eq (r : Option Expr) :
    changesOption ms r = r.toList.flatMap (changes ms) := by
  cases r with
  | none => rfl
  | some e => simp [changesOption]

theorem changesList_eq (es : List Expr) : changesList ms es = es.flatMap (changes ms) := by
  induction es with
  | nil => rfl
  | cons e es ih => rw [changesList, ih, List.flatMap_cons]

theorem positionChanges_eq (es : List Expr) :
    positionChanges ms es = es.flatMap fun e => e.atPosition (e.changes ms) := by
  induction es with
  | nil => rfl
  | cons e es ih => rw [positionChanges, ih, List.flatMap_cons]

/-! ## The leaves of the source -/

theorem filterMap_source?_map_shifted (ls : List Leaf) :
    (ls.map LeafChange.shifted).filterMap LeafChange.source? = ls := by
  rw [List.filterMap_map]
  exact List.filterMap_some

theorem filterMap_source?_atPosition {e : Expr} {changes : List LeafChange}
    (h : changes.filterMap LeafChange.source? = e.leaves) :
    (e.atPosition changes).filterMap LeafChange.source? = e.leaves := by
  unfold atPosition
  split
  · exact filterMap_source?_map_shifted e.leaves
  · rw [List.filterMap_append, h]
    exact List.append_nil _

theorem filterMap_source?_flatMap {es : List Expr} {f : Expr → List LeafChange}
    (h : ∀ x ∈ es, (f x).filterMap LeafChange.source? = x.leaves) :
    (es.flatMap f).filterMap LeafChange.source? = es.flatMap leaves := by
  rw [List.filterMap_flatMap]
  exact List.flatMap_congr h

/-- **The changes speak of all leaves of the source**, in order. -/
theorem filterMap_source?_changes (e : Expr) :
    (e.changes ms).filterMap LeafChange.source? = e.leaves := by
  induction e with
  | column name type => rfl
  | literal value => rfl
  | methodCall t m r as hr has =>
      have hreceiver : (r.toList.flatMap (changes ms)).filterMap LeafChange.source? =
          r.toList.flatMap leaves :=
        filterMap_source?_flatMap fun x hx => hr x (Option.mem_toList.1 hx)
      rw [leaves_methodCall, changes, changesOption_eq, List.filterMap_append, hreceiver,
        List.flatMap_append]
      congr 1
      split
      · rw [positionChanges_eq]
        exact filterMap_source?_flatMap fun x hx => filterMap_source?_atPosition (has x hx)
      · rw [changesList_eq]
        exact filterMap_source?_flatMap has
  | function name as has =>
      rw [changes, leaves, changesList_eq, leavesList_eq]
      exact filterMap_source?_flatMap has
  | binary operator l r hl hr => rw [changes, leaves, List.filterMap_append, hl, hr]
  | cast target storeType x hx => exact hx
  | index a is origin ha his =>
      cases origin with
      | zero =>
          rw [changes, leaves, List.filterMap_append, ha, positionChanges_eq, leavesList_eq,
            filterMap_source?_flatMap fun x hx => filterMap_source?_atPosition (his x hx)]
      | one =>
          rw [changes, leaves, List.filterMap_append, ha, changesList_eq, leavesList_eq,
            filterMap_source?_flatMap his]

/-! ## The leaves of shifted positions -/

open LeafChange (Yields)

variable {ms}

/-- The leaves of a native form are what the changes of the source yield. -/
def LeavesAs (ms : List BundledModule) (e e' : Expr) : Prop :=
  List.Forall₂ Yields (e.changes ms) e'.leaves

theorem toInt_saturatingNext_eq_min (n : Int64) :
    (saturatingNext n).toInt = min (n.toInt + 1) Int64.maxValue.toInt := by
  have hle := n.toInt_le
  have hmax : Int64.maxValue.toInt = 9223372036854775807 := by decide
  by_cases h : n = Int64.maxValue
  · subst h
    rw [saturatingNext, if_pos rfl]
    omega
  · have hnext := toInt_saturatingNext h
    have hne : n.toInt ≠ Int64.maxValue.toInt := fun h' => h (Int64.toInt_inj.1 h')
    omega

theorem toInt64_oneBased {e : Expr} {n : Int64} (h : e.integer? = some n) :
    e.oneBased.integer? = some (saturatingNext n) := by
  obtain ⟨value, hvalue, hn⟩ := Option.bind_eq_some_iff.1 h
  obtain rfl := eq_literal_of_constant? hvalue
  cases value with
  | int32 m =>
      obtain rfl := Option.some.inj hn
      rw [oneBased, saturatingNext, if_neg (toInt64_ne_maxValue m)]
      split
      · rfl
      · have hwide : (m + 1).toInt64 = m.toInt64 + 1 := by
          rw [← Int64.toInt_inj, Int32.toInt_toInt64, toInt_next32 ‹_›, toInt_widened]
        rw [← hwide]
        rfl
  | int64 m =>
      obtain rfl := Option.some.inj hn
      rfl
  | _ => cases hn

theorem yields_shifted {e e' : Expr} {n : Int64} (h : e.integer? = some n)
    (h' : e'.integer? = some (saturatingNext n)) :
    List.Forall₂ Yields (e.leaves.map .shifted) e'.leaves := by
  obtain ⟨value, hvalue, hn⟩ := Option.bind_eq_some_iff.1 h
  obtain ⟨value', hvalue', hn'⟩ := Option.bind_eq_some_iff.1 h'
  obtain rfl := eq_literal_of_constant? hvalue
  obtain rfl := eq_literal_of_constant? hvalue'
  exact .cons (.shifted hn hn' (toInt_saturatingNext_eq_min n)) .nil

theorem integer?_congr {e e' : Expr} (h : e'.constant? = e.constant?) :
    e'.integer? = e.integer? := by
  rw [integer?, integer?, h]

theorem forall₂_atPosition {e e' : Expr} (h : LeavesAs ms e e')
    (hconstant : e'.constant? = e.constant?) :
    List.Forall₂ Yields (e.atPosition (e.changes ms)) e'.oneBased.leaves := by
  have hsame := integer?_congr hconstant
  unfold atPosition
  cases hinteger : e.integer? with
  | some n =>
      rw [hinteger] at hsame
      rw [if_pos Option.isSome_some]
      exact yields_shifted hinteger (toInt64_oneBased hsame)
  | none =>
      rw [hinteger] at hsame
      rw [if_neg (by simp), oneBased_of_integer?_eq_none hsame, leaves]
      exact List.rel_append h (.cons .inserted .nil)

theorem forall₂_flatMap {f : Expr → List LeafChange} {g : Expr → List Leaf} {es es' : List Expr}
    (h : List.Forall₂ (fun x x' => List.Forall₂ Yields (f x) (g x')) es es') :
    List.Forall₂ Yields (es.flatMap f) (es'.flatMap g) := by
  induction h with
  | nil => exact .nil
  | cons hx _ ih =>
      rw [List.flatMap_cons, List.flatMap_cons]
      exact List.rel_append hx ih

/-- Positions count from one afterwards, whether they are shifted one by one or all at once. -/
theorem forall₂_positionChanges {es es' : List Expr} (h : List.Forall₂ (LeavesAs ms) es es')
    (hconstants : SameConstants es es') :
    List.Forall₂ Yields (positionChanges ms es) ((oneBasedList es').flatMap leaves) := by
  rw [positionChanges_eq]
  cases hintegers : constants? es' with
  | some ns =>
      rw [oneBasedList_of_constants? hintegers, List.map_map, List.flatMap_map]
      rw [hconstants.constants?_eq, constants?_eq_some_iff] at hintegers
      clear h hconstants
      induction hintegers with
      | nil => exact .nil
      | @cons e n es ns hn _ ih =>
          have hshifted : List.Forall₂ Yields (e.leaves.map .shifted)
              (literal (.int64 (saturatingNext n))).leaves := yields_shifted hn rfl
          rw [List.flatMap_cons, List.flatMap_cons, atPosition, hn, if_pos Option.isSome_some]
          exact List.rel_append hshifted ih
  | none =>
      rw [oneBasedList, hintegers]
      dsimp only
      rw [List.flatMap_map]
      exact forall₂_flatMap (h.mp (fun _ _ => forall₂_atPosition) hconstants)

theorem forall₂_shiftLast {receiver position : Expr} {operands : List Expr}
    (h : List.Forall₂ (LeavesAs ms) [receiver, position] operands)
    (hconstants : SameConstants [receiver, position] operands) :
    List.Forall₂ Yields (receiver.changes ms ++ positionChanges ms [position])
      ((shiftLast operands).flatMap leaves) := by
  obtain ⟨receiver', _, hreceiver, hrest, rfl⟩ := List.forall₂_cons_left_iff.1 h
  obtain ⟨position', _, hposition, hnil, rfl⟩ := List.forall₂_cons_left_iff.1 hrest
  obtain rfl := List.forall₂_nil_left_iff.1 hnil
  obtain ⟨-, hconstant⟩ : receiver'.constant? = receiver.constant? ∧
      position'.constant? = position.constant? := by simpa using hconstants
  rw [positionChanges, positionChanges, shiftLast, shiftLast, List.flatMap_cons,
    List.flatMap_singleton, List.append_nil]
  exact List.rel_append hreceiver (forall₂_atPosition hposition hconstant)

/-- What a form makes of operands has their leaves, but for the position. -/
theorem leaves_of_apply {form : NativeForm} {es : List Expr} {e : Expr}
    (h : form.apply es = .replaced e) :
    e.leaves = (if form.isPositional then shiftLast es else es).flatMap leaves := by
  rcases NativeForm.apply_eq_replaced h with ⟨name, rfl, rfl⟩ | ⟨symbol, l, r, rfl, rfl, rfl⟩ |
    ⟨name, rfl, rfl⟩
  · exact leavesList_eq es
  · change l.leaves ++ r.leaves = [l, r].flatMap leaves
    rw [List.flatMap_cons, List.flatMap_singleton]
  · exact leavesList_eq (shiftLast es)

/-! ## The leaves of native forms -/

/-- **The leaves of a native form are what the changes of the source yield.** -/
theorem forall₂_changes {config : Config} {e e' : Expr}
    (h : e.lowered (registry ms) config = .ok e') : LeavesAs ms e e' := by
  refine lowered_induction (P := LeavesAs ms)
    ?column ?literal ?kept ?translated ?function ?binary ?cast ?index h
  case column =>
    intro name type
    exact .cons (.kept _) .nil
  case literal =>
    intro value
    exact .cons (.kept _) .nil
  case kept =>
    intro t m r r' as as' hr has hform _
    have hposition : ¬ (MethodCall.mk t m r as).takesPosition ms = true := by
      rw [MethodCall.takesPosition_iff, hform]
      simp
    unfold LeavesAs
    rw [leaves_methodCall, changes, if_neg hposition, changesOption_eq, changesList_eq,
      ← List.flatMap_append]
    exact forall₂_flatMap (forall₂_operands hr has)
  case translated =>
    intro t m r as operands form e hoperands hconstants hform happly
    have hposition := MethodCall.takesPosition_eq hform
    unfold LeavesAs
    rw [changes, leaves_of_apply happly]
    cases hpositional : form.isPositional with
    | true =>
        rw [hpositional] at hposition
        obtain ⟨receiver, position, rfl, rfl⟩ := MethodCall.operands_of_takesPosition hposition
        rw [if_pos hposition]
        exact forall₂_shiftLast hoperands hconstants
    | false =>
        rw [hpositional] at hposition
        rw [if_neg (by simp [hposition]), changesOption_eq, changesList_eq, ← List.flatMap_append]
        exact forall₂_flatMap hoperands
  case function =>
    intro name as as' has
    unfold LeavesAs
    rw [changes, leaves, changesList_eq, leavesList_eq]
    exact forall₂_flatMap has
  case binary =>
    intro operator l r l' r' hl hr
    exact List.rel_append hl hr
  case cast =>
    intro target storeType x x' descriptor hx _
    exact hx
  case index =>
    intro a a' is is' origin ha his hconstants
    unfold LeavesAs
    cases origin with
    | zero =>
        rw [changes, indexFromOne, leaves, leavesList_eq]
        exact List.rel_append ha (forall₂_positionChanges his hconstants)
    | one =>
        rw [changes, indexFromOne, leaves, changesList_eq, leavesList_eq]
        exact List.rel_append ha (forall₂_flatMap his)

/-- Only integer constants are shifted and inserted. -/
theorem filter_of_forall₂_yields {changes : List LeafChange} {ls : List Leaf}
    (h : List.Forall₂ Yields changes ls) :
    (ls.filter fun l => l.integer?.isNone) =
      (changes.filterMap LeafChange.source?).filter fun l => l.integer?.isNone := by
  induction h with
  | nil => rfl
  | cons hyields _ ih =>
      cases hyields with
      | kept l =>
          rw [List.filterMap_cons]
          simp only [LeafChange.source?, List.filter_cons, ih]
      | shifted hn hn' _ =>
          rw [List.filterMap_cons]
          simp only [LeafChange.source?, List.filter_cons, hn, hn', ih]
          rfl
      | inserted =>
          rw [List.filterMap_cons]
          exact ih

theorem filter_leaves_lowered {config : Config} {e e' : Expr}
    (h : e.lowered (registry ms) config = .ok e') :
    (e'.leaves.filter fun l => l.integer?.isNone) = e.leaves.filter fun l => l.integer?.isNone := by
  rw [filter_of_forall₂_yields (forall₂_changes h), filterMap_source?_changes]

end Expr

/-! ## Sessions -/

namespace Session

/-- **No operand is lost, doubled or moved.** The columns and the constants that are not integers
are the same before and after, in order. All leaves of the compiled expression are those of the
source, in order, where an integer constant that is a position is the next one, as far as there is
one, and a one follows any other position. -/
theorem compile_leaves {s : Session} {d : Depot} {ms : List BundledModule} {e : Expr}
    {out : Compiled} (hs : s.Uses d ms) (hout : (s.compile d e).1 = .ok out) :
    (out.expr.leaves.filter fun l => l.integer?.isNone) =
      (e.leaves.filter fun l => l.integer?.isNone) ∧
    (e.changes ms).filterMap LeafChange.source? = e.leaves ∧
    List.Forall₂ LeafChange.Yields (e.changes ms) out.expr.leaves := by
  rw [hs.compile_fst] at hout
  have hlowered := (compiled_eq_ok hout).1
  exact ⟨Expr.filter_leaves_lowered hlowered, e.filterMap_source?_changes ms,
    Expr.forall₂_changes hlowered⟩

/-- The constant subscript is shifted; behind the other subscript and behind the position in the
geometry stands a one. -/
theorem compile_leaves_textOfPart :
    ∃ out : Compiled, ((ofModules [.geometry] ⟨"", false, none⟩).compile
        (.ofModules [.geometry]) .textOfPart).1 = .ok out ∧
      (Expr.textOfPart.changes [.geometry]).filterMap LeafChange.source? =
        Expr.textOfPart.leaves ∧
      List.Forall₂ LeafChange.Yields
        [.kept (.column "shape" .geometry), .kept (.column "name" .text),
          .kept (.column "names" .collection), .shifted (.constant (.int32 7)),
          .kept (.column "i" .int32), .inserted, .inserted] out.expr.leaves := by
  refine ⟨_, rfl, ?_⟩
  exact (compile_leaves (ofModules_uses [.geometry] ⟨"", false, none⟩) rfl).2

end Session

end SqlLowering
