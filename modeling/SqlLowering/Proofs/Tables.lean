import SqlLowering.Proofs.Leaves

/-!
# What the bundled rules translate

A bundled rule looks for the first entry of its table that has the signature of the call, and then
looks at the operands: an operator takes two, and a form with a position shifts the last one. The
second look never declines what the first one found, since each operator stands beside signatures of
two operands. So a rule translates a call exactly when an entry agrees with it on four points
(`Signature.Fits`), and the operands of the replacement are those of the call, but for a position
(`rule_replaces_iff`). No call fits two entries of the five tables.
-/

namespace SqlLowering

/-- The call agrees with the signature on the declaring type, the name, the number of arguments and
the presence of a receiver. -/
structure Signature.Fits (s : Signature) (call : MethodCall) : Prop where
  declaringType : call.declaringType = s.declaringType
  name : call.method = s.name
  length_args : call.args.length = s.params.length
  isSome_receiver : call.receiver.isSome = true ↔ s.kind = .member

theorem Signature.fits_iff_shape_eq {s : Signature} {call : MethodCall} :
    s.Fits call ↔ s.shape = call.shape := by
  have hstatic : (call.receiver.isSome = true ↔ s.kind = .member) ↔
      decide (s.kind = .static) = call.isStatic := by
    unfold MethodCall.isStatic
    cases s.kind <;> cases call.receiver <;> simp
  unfold shape MethodCall.shape
  rw [CallShape.mk.injEq, ← hstatic]
  constructor
  · intro h
    exact ⟨h.declaringType.symm, h.name.symm, h.length_args.symm, h.isSome_receiver⟩
  · rintro ⟨ht, hm, hargs, hreceiver⟩
    exact ⟨ht.symm, hm.symm, hargs.symm, hreceiver⟩

theorem MethodCall.shape_congr {call call' : MethodCall}
    (ht : call'.declaringType = call.declaringType) (hm : call'.method = call.method)
    (hargs : call'.args.length = call.args.length)
    (hreceiver : call'.receiver.isSome = call.receiver.isSome) : call'.shape = call.shape := by
  have hstatic : call'.isStatic = call.isStatic := by
    unfold isStatic
    rw [← Option.not_isSome, ← Option.not_isSome, hreceiver]
  unfold shape arity
  rw [ht, hm, hargs, hstatic]

/-- The operands of a native form of the call: the receiver, if any, and the arguments, in order.
The last argument of a method that picks an element of a geometry counts from one. -/
def MethodCall.nativeOperands (call : MethodCall) : List Expr :=
  call.receiver.toList ++
    if call.declaringType = .geometry ∧ call.method ∈ ["GetGeometryN", "GetPointN"] then
      shiftLast call.args
    else call.args

/-- The native expression of a form over operands that are in order already. -/
inductive NativeForm.Makes : NativeForm → List Expr → Expr → Prop
  | function (name : String) (es : List Expr) : Makes (.function name) es (.function name es)
  | operator (symbol : String) (l r : Expr) : Makes (.operator symbol) [l, r] (.binary symbol l r)
  | positional (name : String) (es : List Expr) : Makes (.positional name) es (.function name es)

theorem NativeForm.apply_eq_replaced_iff {form : NativeForm} {es : List Expr} {e : Expr} :
    form.apply es = .replaced e ↔
      form.Makes (if form.isPositional then shiftLast es else es) e := by
  constructor
  · intro h
    rcases NativeForm.apply_eq_replaced h with ⟨name, rfl, rfl⟩ | ⟨symbol, l, r, rfl, rfl, rfl⟩ |
      ⟨name, rfl, rfl⟩
    · exact .function name es
    · exact .operator symbol l r
    · exact .positional name (shiftLast es)
  · intro h
    cases form with
    | function name =>
        cases h
        rfl
    | operator symbol =>
        cases h
        rfl
    | positional name =>
        cases h
        rfl

namespace BundledModule

/-- The type that declares the methods of the module. -/
def owner : BundledModule → ValueType
  | geometry => .geometry
  | labelTree => .ltree
  | fuzzyMatch | trigrams | unaccent => .dbFunctions

theorem declaringType_eq_owner :
    ∀ m ∈ all, ∀ entry ∈ m.table, entry.1.declaringType = m.owner := by
  decide

/-- Only the methods that pick an element of a geometry have a form with a position. -/
theorem isPositional_iff : ∀ m ∈ all, ∀ entry ∈ m.table,
    (entry.2.isPositional = true ↔
      entry.1.declaringType = .geometry ∧ entry.1.name ∈ ["GetGeometryN", "GetPointN"]) := by
  decide

variable {m : BundledModule} {call : MethodCall}

theorem form?_eq_some_iff {shape : CallShape} {form : NativeForm} :
    m.table.form? shape = some form ↔
      ∃ entry ∈ m.table, entry.1.shape = shape ∧ entry.2 = form := by
  have hsingle : activeForm? [m] shape = m.table.form? shape := by
    rw [activeForm?, activeTable, List.flatMap_singleton]
  rw [← hsingle, activeForm?_eq_some_iff]
  simp

theorem nativeOperands_eq {entry : Signature × NativeForm} (hentry : entry ∈ m.table)
    (h : entry.1.Fits call) :
    call.nativeOperands =
      if entry.2.isPositional then shiftLast call.operands else call.operands := by
  have hposition := isPositional_iff m (mem_all m) entry hentry
  rw [← h.declaringType, ← h.name] at hposition
  unfold MethodCall.nativeOperands
  by_cases hp : entry.2.isPositional = true
  · rw [if_pos hp, if_pos (hposition.1 hp)]
    have hshape := (isPositional_entries.1 m (mem_all m) entry hentry hp).2
    rw [Signature.fits_iff_shape_eq.1 h] at hshape
    obtain ⟨t, name, receiver, args⟩ := call
    have htakes : (MethodCall.mk t name receiver args).takesPosition [geometry] = true :=
      decide_eq_true ⟨List.mem_singleton_self _, hshape⟩
    obtain ⟨receiver, position, rfl, rfl⟩ := MethodCall.operands_of_takesPosition htakes
    rfl
  · rw [if_neg hp, if_neg fun h => hp (hposition.2 h)]
    rfl

/-- **A rule replaces what fits an entry of its table**, by the form of the entry over the operands
of the call. -/
theorem rule_replaces_iff {e : Expr} :
    m.rule call = .replaced e ↔
      ∃ entry ∈ m.table, entry.1.Fits call ∧ entry.2.Makes call.nativeOperands e := by
  rw [rule_eq, TranslationTable.rule_eq_replaced_iff]
  constructor
  · rintro ⟨form, hform, happly⟩
    obtain ⟨entry, hentry, hshape, rfl⟩ := form?_eq_some_iff.1 hform
    have hfits := Signature.fits_iff_shape_eq.2 hshape
    refine ⟨entry, hentry, hfits, ?_⟩
    rw [nativeOperands_eq hentry hfits]
    exact NativeForm.apply_eq_replaced_iff.1 happly
  · rintro ⟨entry, hentry, hfits, hmakes⟩
    rw [nativeOperands_eq hentry hfits] at hmakes
    have hshape := Signature.fits_iff_shape_eq.1 hfits
    exact ⟨entry.2, form?_eq_some_iff.2 ⟨entry, hentry, hshape, rfl⟩,
      NativeForm.apply_eq_replaced_iff.2 hmakes⟩

theorem exists_rule_replaces_iff :
    (∃ e, m.rule call = .replaced e) ↔ ∃ entry ∈ m.table, entry.1.Fits call := by
  constructor
  · rintro ⟨e, h⟩
    obtain ⟨entry, hentry, hfits, -⟩ := rule_replaces_iff.1 h
    exact ⟨entry, hentry, hfits⟩
  · rintro ⟨entry, hentry, hfits⟩
    have hshape := Signature.fits_iff_shape_eq.1 hfits
    have htakes : entry.2.takes call.operands.length = true := by
      rw [call.length_operands, ← hshape]
      exact takes_operandCount m (mem_all m) entry hentry
    obtain ⟨e, he⟩ := NativeForm.exists_apply_of_takes htakes
    rw [rule_eq]
    exact ⟨e, TranslationTable.rule_eq_replaced_iff.2
      ⟨entry.2, form?_eq_some_iff.2 ⟨entry, hentry, hshape, rfl⟩, he⟩⟩

/-- A rule declines what fits no entry of its table, and nothing else. -/
theorem rule_declines_iff :
    m.rule call = .declined ↔ ¬ ∃ entry ∈ m.table, entry.1.Fits call := by
  constructor
  · intro h hfits
    obtain ⟨e, he⟩ := exists_rule_replaces_iff.2 hfits
    rw [h] at he
    cases he
  · intro h
    have hform : m.table.form? call.shape = none := by
      rw [TranslationTable.form?_eq_none_iff]
      intro entry hentry hshape
      exact h ⟨entry, hentry, Signature.fits_iff_shape_eq.2 hshape⟩
    rw [rule_eq, TranslationTable.rule_eq, hform]

/-- No two entries of the five tables accept one call. -/
theorem countP_accepts_le_one (call : MethodCall) :
    (all.flatMap table).countP (fun entry => entry.1.accepts call) ≤ 1 := by
  have hcount := List.nodup_iff_count_le_one.1 shapes_nodup call.shape
  rw [List.count, List.countP_map] at hcount
  refine Nat.le_trans (Nat.le_of_eq ?_) hcount
  apply List.countP_congr
  intro entry _
  rw [entry.1.accepts_iff, Function.comp_apply, beq_iff_eq]

/-- **What the bundled rules translate.** A call fits at most one entry of the five tables. The rule
of a module replaces it exactly when it fits an entry of the module, by the function or the operator
of the entry over the receiver, if any, and the arguments, in order; only the argument of a method
that picks an element of a geometry is shifted. Any other call is declined, so calls that agree on
the four points of a signature are both replaced or both declined, and no call is replaced that
another type declares. -/
theorem rule_translates (call : MethodCall) :
    (all.flatMap table).countP (fun entry => entry.1.accepts call) ≤ 1 ∧
    (∀ s : Signature, s.accepts call = true ↔ s.Fits call) ∧
    ∀ m : BundledModule, ∃ rule, m.extension.module.rules = [rule] ∧
      (∀ e, rule call = .replaced e ↔
        ∃ entry ∈ m.table, entry.1.Fits call ∧ entry.2.Makes call.nativeOperands e) ∧
      ((∃ e, rule call = .replaced e) ↔ ∃ entry ∈ m.table, entry.1.Fits call) ∧
      (rule call = .declined ↔ ¬ ∃ entry ∈ m.table, entry.1.Fits call) ∧
      (∀ call' : MethodCall, call'.declaringType = call.declaringType →
        call'.method = call.method → call'.args.length = call.args.length →
        call'.receiver.isSome = call.receiver.isSome →
        ((∃ e', rule call' = .replaced e') ↔ ∃ e, rule call = .replaced e) ∧
        (rule call' = .declined ↔ rule call = .declined)) ∧
      (call.declaringType ≠ m.owner → rule call = .declined) := by
  refine ⟨countP_accepts_le_one call, fun s => ?_, fun m => ⟨m.rule, rules_extension m,
    fun e => rule_replaces_iff, exists_rule_replaces_iff, rule_declines_iff, ?_, ?_⟩⟩
  · rw [s.accepts_iff, Signature.fits_iff_shape_eq]
  · intro call' ht hm hargs hreceiver
    have hshape := MethodCall.shape_congr ht hm hargs hreceiver
    simp only [exists_rule_replaces_iff, rule_declines_iff, Signature.fits_iff_shape_eq, hshape,
      and_self]
  · intro howner
    rw [rule_declines_iff]
    rintro ⟨entry, hentry, hfits⟩
    exact howner (hfits.declaringType.trans (declaringType_eq_owner m (mem_all m) entry hentry))

/-- The position is shifted, whatever it is. With a second argument, the call fits no entry, and the
rule of another type declines it. -/
theorem rule_translates_getPointN :
    let line : Expr := .column "line" .geometry
    let at' (args : List Expr) : MethodCall := ⟨.geometry, "GetPointN", some line, args⟩
    let six : Expr := .literal (.int32 6)
    let i : Expr := .column "i" .int32
    ∃ rule other, geometry.extension.module.rules = [rule] ∧
      labelTree.extension.module.rules = [other] ∧
      rule (at' [six]) = .replaced (.function "ST_PointN" [line, .literal (.int32 7)]) ∧
      (∃ e, rule (at' [i]) = .replaced e) ∧ rule (at' [six, i]) = .declined ∧
      other (at' [six]) = .declined := by
  intro line at' six i
  obtain ⟨-, -, hmodules⟩ := rule_translates (at' [six])
  obtain ⟨rule, hrules, hreplaced, -, -, hsame, -⟩ := hmodules geometry
  obtain ⟨other, hother, -, -, -, -, howner⟩ := hmodules labelTree
  have hsix := (hreplaced (.function "ST_PointN" [line, .literal (.int32 7)])).2
    ⟨(⟨.member, .geometry, "GetPointN", [.int32]⟩, .positional "ST_PointN"), by decide,
      ⟨rfl, rfl, rfl, by decide⟩, .positional _ _⟩
  refine ⟨rule, other, hrules, hother, hsix, ?_, ?_, howner (by decide)⟩
  · exact ((hsame (at' [i]) rfl rfl rfl rfl).1).2 ⟨_, hsix⟩
  · obtain rfl : geometry.rule = rule := List.singleton_inj.1 hrules
    rfl

end BundledModule

end SqlLowering
