import Mathlib.Data.List.Induction
import Mathlib.Data.List.Nodup
import SqlLowering.Bundled.Catalog

/-!
# The bundled modules as one table

Signatures compare four things of a call, its *shape*: the declaring type, the name, the number of
arguments and the presence of a receiver. A table of signatures is a table of shapes, so whether it
has a form for a call, and which, depends on the shape alone.

A registry in which bundled modules were activated answers like the one table that has their tables
one after the other (`translate_registry`), for two reasons: each operator of the tables stands
beside a shape of two operands, so a call that is found is never declined; and a module that is
activated again would have answered before. No shape stands twice in the five tables
(`shapes_nodup`), so the order of the modules does not matter, and more modules never change a form
(`activeForm?_mono`).
-/

namespace SqlLowering

/-- What signatures compare of a call. -/
structure CallShape where
  declaringType : ValueType
  name : String
  arity : Nat
  isStatic : Bool
deriving DecidableEq, Repr

def CallShape.operandCount (shape : CallShape) : Nat :=
  if shape.isStatic then shape.arity else shape.arity + 1

def MethodCall.shape (call : MethodCall) : CallShape :=
  ⟨call.declaringType, call.method, call.arity, call.isStatic⟩

def Signature.shape (s : Signature) : CallShape :=
  ⟨s.declaringType, s.name, s.arity, decide (s.kind = .static)⟩

theorem MethodCall.length_operands (call : MethodCall) :
    call.operands.length = call.shape.operandCount := by
  obtain ⟨t, m, _ | receiver, args⟩ := call
  · rfl
  · rfl

theorem Signature.accepts_iff (s : Signature) (call : MethodCall) :
    s.accepts call = true ↔ s.shape = call.shape := by
  obtain ⟨kind, t, name, params⟩ := s
  obtain ⟨t', m, receiver, args⟩ := call
  simp only [accepts, shape, MethodCall.shape, Bool.and_eq_true, decide_eq_true_eq, beq_iff_eq,
    CallShape.mk.injEq]
  cases kind <;> cases receiver <;>
    simp [MethodCall.isStatic, eq_comm, and_comm, and_left_comm]

/-! ## Tables -/

namespace NativeForm

def symbol : NativeForm → String
  | function name => name
  | operator symbol => symbol
  | positional name => name

def takes : NativeForm → Nat → Bool
  | operator _, n => n == 2
  | _, _ => true

theorem apply_eq_replaced {form : NativeForm} {es : List Expr} {e : Expr}
    (h : form.apply es = .replaced e) :
    (∃ name, form = .function name ∧ e = .function name es) ∨
    (∃ symbol l r, form = .operator symbol ∧ es = [l, r] ∧ e = .binary symbol l r) ∨
    (∃ name, form = .positional name ∧ e = .function name (shiftLast es)) := by
  unfold apply at h
  split at h
  · rename_i name
    exact Or.inl ⟨name, rfl, (Outcome.replaced.inj h).symm⟩
  · rename_i symbol l r
    exact Or.inr (Or.inl ⟨symbol, l, r, rfl, rfl, (Outcome.replaced.inj h).symm⟩)
  · cases h
  · rename_i name
    exact Or.inr (Or.inr ⟨name, rfl, (Outcome.replaced.inj h).symm⟩)

/-- A form that takes the number of the operands does not decline them. -/
theorem exists_apply_of_takes {form : NativeForm} {es : List Expr}
    (h : form.takes es.length = true) : ∃ e, form.apply es = .replaced e := by
  cases form with
  | function name => exact ⟨.function name es, rfl⟩
  | operator symbol =>
      have hlength : es.length = 2 := by simpa [takes] using h
      obtain ⟨l, r, rfl⟩ := List.length_eq_two.1 hlength
      exact ⟨.binary symbol l r, rfl⟩
  | positional name => exact ⟨.function name (shiftLast es), rfl⟩

end NativeForm

namespace TranslationTable

def form? (table : TranslationTable) (shape : CallShape) : Option NativeForm :=
  (table.find? fun entry => entry.1.shape = shape).map Prod.snd

theorem rule_eq (table : TranslationTable) (operands : MethodCall → List Expr)
    (call : MethodCall) : table.rule operands call =
      match table.form? call.shape with
      | some form => form.apply (operands call)
      | none => .declined := by
  have hfind : Signature.find? table call =
      table.find? fun entry => entry.1.shape = call.shape := by
    unfold Signature.find?
    congr 1
    funext entry
    rw [Bool.eq_iff_iff, Signature.accepts_iff, decide_eq_true_iff]
  unfold rule form?
  rw [hfind]
  cases table.find? fun entry => entry.1.shape = call.shape <;> rfl

theorem rule_eq_replaced_iff {table : TranslationTable} {operands : MethodCall → List Expr}
    {call : MethodCall} {e : Expr} : table.rule operands call = .replaced e ↔
      ∃ form, table.form? call.shape = some form ∧ form.apply (operands call) = .replaced e := by
  rw [rule_eq]
  constructor
  · intro h
    cases hform : table.form? call.shape with
    | none =>
        rw [hform] at h
        cases h
    | some form =>
        rw [hform] at h
        exact ⟨form, rfl, h⟩
  · rintro ⟨form, hform, happly⟩
    rw [hform]
    exact happly

theorem form?_append (table table' : TranslationTable) (shape : CallShape) :
    form? (table ++ table') shape = (table.form? shape).or (table'.form? shape) := by
  unfold form?
  rw [List.find?_append, Option.map_or]

theorem form?_eq_none_iff {table : TranslationTable} {shape : CallShape} :
    table.form? shape = none ↔ ∀ entry ∈ table, entry.1.shape ≠ shape := by
  simp [form?]

theorem exists_entry_of_form? {table : TranslationTable} {shape : CallShape} {form : NativeForm}
    (h : table.form? shape = some form) :
    ∃ entry ∈ table, entry.1.shape = shape ∧ entry.2 = form := by
  obtain ⟨entry, hfind, hform⟩ := Option.map_eq_some_iff.1 h
  exact ⟨entry, List.mem_of_find?_eq_some hfind, by simpa using List.find?_some hfind, hform⟩

/-- **The arguments are all operands of a static method**, so a table of static methods may take
either. -/
theorem rule_args {table : TranslationTable} (h : ∀ entry ∈ table, entry.1.kind = .static) :
    table.rule MethodCall.args = table.rule MethodCall.operands := by
  funext call
  rw [rule_eq, rule_eq]
  cases hform : table.form? call.shape with
  | none => rfl
  | some form =>
      obtain ⟨entry, hentry, hshape, rfl⟩ := exists_entry_of_form? hform
      have hstatic : call.isStatic = true :=
        (congrArg CallShape.isStatic hshape).symm.trans (decide_eq_true (h entry hentry))
      obtain ⟨t, m, receiver, args⟩ := call
      obtain rfl : receiver = none := Option.isNone_iff_eq_none.1 hstatic
      rfl

end TranslationTable

/-! ## Adding a module to a registry -/

namespace Registry

theorem add_of_contains {r : Registry} {m : TranslationModule} (h : r.contains m.key = true) :
    (r.add m).2 = r := by
  rw [add, if_pos h]

theorem add_of_not_contains {r : Registry} {m : TranslationModule}
    (h : ¬ r.contains m.key = true) : (r.add m).2 = ⟨r.modules ++ [m]⟩ := by
  rw [add, if_neg h]

end Registry

theorem firstAnswer_append (call : MethodCall) (rules rules' : List Rule) :
    firstAnswer call (rules ++ rules') =
      match firstAnswer call rules with
      | .declined => firstAnswer call rules'
      | answer => answer := by
  induction rules with
  | nil => rfl
  | cons rule rules ih =>
      rw [List.cons_append, firstAnswer, firstAnswer, ih]
      cases rule call <;> rfl

/-! ## The five modules -/

inductive BundledModule where
  | geometry
  | labelTree
  | fuzzyMatch
  | trigrams
  | unaccent
deriving DecidableEq, Repr

namespace BundledModule

def all : List BundledModule :=
  [geometry, labelTree, fuzzyMatch, trigrams, unaccent]

def table : BundledModule → TranslationTable
  | geometry => Bundled.geometryTable
  | labelTree => Bundled.labelTreeTable
  | fuzzyMatch => Bundled.fuzzyMatchTable
  | trigrams => Bundled.trigramsTable
  | unaccent => Bundled.unaccentTable

def extension : BundledModule → Extension
  | geometry => ⟨Bundled.geometryModule, "use_geometry", "register_geometry"⟩
  | labelTree => ⟨Bundled.labelTreeModule, "use_ltree", "register_ltree"⟩
  | fuzzyMatch => ⟨Bundled.fuzzyMatchModule, "use_fuzzystrmatch", "register_fuzzystrmatch"⟩
  | trigrams => ⟨Bundled.trigramsModule, "use_trigrams", "register_trigrams"⟩
  | unaccent => ⟨Bundled.unaccentModule, "use_unaccent", "register_unaccent"⟩

theorem mem_all (m : BundledModule) : m ∈ all := by
  cases m <;> decide

theorem map_extension_all : all.map extension = Bundled.extensions := rfl

/-- Where the rule of a module takes the operands of a native form from. -/
def operandSource : BundledModule → MethodCall → List Expr
  | geometry | labelTree => MethodCall.operands
  | fuzzyMatch | trigrams | unaccent => MethodCall.args

/-- The rule of a module, which is its table. -/
def rule (m : BundledModule) : Rule :=
  m.table.rule m.operandSource

theorem rules_extension (m : BundledModule) : m.extension.module.rules = [m.rule] := by
  cases m <;> rfl

/-- Each rule takes all operands of the calls that it finds. -/
theorem rule_eq (m : BundledModule) : m.rule = m.table.rule MethodCall.operands := by
  cases m with
  | geometry => rfl
  | labelTree => rfl
  | fuzzyMatch => exact TranslationTable.rule_args (by decide)
  | trigrams => exact TranslationTable.rule_args (by decide)
  | unaccent => exact TranslationTable.rule_args (by decide)

theorem key_injective {m m' : BundledModule} (h : m.extension.key = m'.extension.key) :
    m = m' := by
  cases m <;> cases m' <;> first | rfl | exact absurd h (by decide)

theorem takes_operandCount :
    ∀ m ∈ all, ∀ entry ∈ m.table, entry.2.takes entry.1.shape.operandCount = true := by
  decide

/-- **No shape stands twice in the five tables.** -/
theorem shapes_nodup : ((all.flatMap table).map fun entry => entry.1.shape).Nodup := by
  decide +kernel

/-! ## Selections of modules -/

def activeTable (ms : List BundledModule) : TranslationTable :=
  ms.flatMap table

/-- The form that the active modules have for a shape. -/
def activeForm? (ms : List BundledModule) (shape : CallShape) : Option NativeForm :=
  (activeTable ms).form? shape

/-- The registry in which some modules were activated, in this order. -/
def registry (ms : List BundledModule) : Registry :=
  (Container.empty.activateAll (ms.map extension)).registry

/-- Whether a signature of one of the modules accepts the call. -/
def recognises (ms : List BundledModule) (call : MethodCall) : Bool :=
  ms.any fun m => m.table.any fun entry => entry.1.accepts call

variable {ms : List BundledModule}

theorem mem_activeTable {entry : Signature × NativeForm} :
    entry ∈ activeTable ms ↔ ∃ m ∈ ms, entry ∈ m.table :=
  List.mem_flatMap

theorem entry_eq_of_shape_eq {m m' : BundledModule} {entry entry' : Signature × NativeForm}
    (h : entry ∈ m.table) (h' : entry' ∈ m'.table) (hshape : entry.1.shape = entry'.1.shape) :
    entry = entry' :=
  List.inj_on_of_nodup_map shapes_nodup (List.mem_flatMap.2 ⟨m, mem_all m, h⟩)
    (List.mem_flatMap.2 ⟨m', mem_all m', h'⟩) hshape

/-- The form for a shape is the one that any of the modules has for it. -/
theorem activeForm?_eq_some_iff {shape : CallShape} {form : NativeForm} :
    activeForm? ms shape = some form ↔
      ∃ m ∈ ms, ∃ entry ∈ m.table, entry.1.shape = shape ∧ entry.2 = form := by
  constructor
  · intro h
    obtain ⟨entry, hentry, hshape, hform⟩ := TranslationTable.exists_entry_of_form? h
    obtain ⟨m, hm, hentry⟩ := mem_activeTable.1 hentry
    exact ⟨m, hm, entry, hentry, hshape, hform⟩
  · rintro ⟨m, hm, entry, hentry, hshape, rfl⟩
    cases hform : activeForm? ms shape with
    | none =>
        exact absurd hshape
          (TranslationTable.form?_eq_none_iff.1 hform entry (mem_activeTable.2 ⟨m, hm, hentry⟩))
    | some form =>
        obtain ⟨entry', hentry', hshape', rfl⟩ := TranslationTable.exists_entry_of_form? hform
        obtain ⟨m', _, hentry'⟩ := mem_activeTable.1 hentry'
        rw [entry_eq_of_shape_eq hentry hentry' (hshape.trans hshape'.symm)]

/-- More modules never change a form. -/
theorem activeForm?_mono {ns : List BundledModule} (hsub : ms ⊆ ns) {shape : CallShape}
    {form : NativeForm} (h : activeForm? ms shape = some form) :
    activeForm? ns shape = some form := by
  obtain ⟨m, hm, entry, hentry⟩ := activeForm?_eq_some_iff.1 h
  exact activeForm?_eq_some_iff.2 ⟨m, hsub hm, entry, hentry⟩

/-- A form that is found for a call takes the operands of the call. -/
theorem exists_apply_of_activeForm? {call : MethodCall} {form : NativeForm}
    (h : activeForm? ms call.shape = some form) : ∃ e, form.apply call.operands = .replaced e := by
  obtain ⟨m, _, entry, hentry, hshape, rfl⟩ := activeForm?_eq_some_iff.1 h
  apply NativeForm.exists_apply_of_takes
  rw [call.length_operands, ← hshape]
  exact takes_operandCount m (mem_all m) entry hentry

theorem recognises_eq (call : MethodCall) :
    recognises ms call = (activeForm? ms call.shape).isSome := by
  rw [Bool.eq_iff_iff, Option.isSome_iff_exists, recognises]
  simp only [List.any_eq_true, Signature.accepts_iff, activeForm?_eq_some_iff]
  constructor
  · rintro ⟨m, hm, entry, hentry, hshape⟩
    exact ⟨entry.2, m, hm, entry, hentry, hshape, rfl⟩
  · rintro ⟨_, m, hm, entry, hentry, hshape, _⟩
    exact ⟨m, hm, entry, hentry, hshape⟩

/-! ## The registry of a selection -/

theorem registry_append (ms : List BundledModule) (m : BundledModule) :
    registry (ms ++ [m]) = ((registry ms).add m.extension.module).2 := by
  unfold registry Container.activateAll
  rw [List.map_append, List.foldl_append]
  rfl

theorem contains_registry (ms : List BundledModule) (m : BundledModule) :
    (registry ms).contains m.extension.key = true ↔ m ∈ ms := by
  induction ms using List.reverseRecOn with
  | nil => simp [registry, Container.activateAll, Container.empty, Registry.empty,
      Registry.contains]
  | append_singleton ms m' ih =>
      rw [registry_append, List.mem_append, List.mem_singleton, ← ih]
      by_cases hm : (registry ms).contains m'.extension.key = true
      · rw [Registry.add_of_contains hm]
        constructor
        · exact Or.inl
        · rintro (h | rfl)
          · exact h
          · exact hm
      · rw [Registry.add_of_not_contains hm]
        unfold Registry.contains
        simp only [List.any_append, List.any_cons, List.any_nil, Bool.or_false, Bool.or_eq_true,
          beq_iff_eq]
        exact or_congr_right ⟨fun h => (key_injective h).symm, fun h => h ▸ rfl⟩

theorem translate_add {r : Registry} {m : BundledModule} (call : MethodCall)
    (hnew : ¬ r.contains m.extension.key = true) :
    (r.add m.extension.module).2.translate call =
      match r.translate call with
      | .declined => m.rule call
      | answer => answer := by
  have hrule : firstAnswer call [m.rule] = m.rule call := by
    unfold firstAnswer firstAnswer
    cases m.rule call <;> rfl
  rw [Registry.add_of_not_contains hnew]
  unfold Registry.translate Registry.rules
  rw [List.flatMap_append, List.flatMap_singleton, rules_extension, firstAnswer_append, hrule]

theorem activeForm?_append (ms : List BundledModule) (m : BundledModule) (shape : CallShape) :
    activeForm? (ms ++ [m]) shape = (activeForm? ms shape).or (m.table.form? shape) := by
  unfold activeForm? activeTable
  rw [List.flatMap_append, List.flatMap_singleton, TranslationTable.form?_append]

theorem form?_eq_none_of_activeForm? {m : BundledModule} (hm : m ∈ ms) {shape : CallShape}
    (h : activeForm? ms shape = none) : m.table.form? shape = none := by
  rw [TranslationTable.form?_eq_none_iff]
  intro entry hentry
  exact TranslationTable.form?_eq_none_iff.1 h entry (mem_activeTable.2 ⟨m, hm, hentry⟩)

/-- **A registry of bundled modules answers by the form it has for the shape of the call.** -/
theorem translate_registry (ms : List BundledModule) (call : MethodCall) :
    (registry ms).translate call =
      match activeForm? ms call.shape with
      | some form => form.apply call.operands
      | none => .declined := by
  induction ms using List.reverseRecOn with
  | nil => rfl
  | append_singleton ms m ih =>
      rw [registry_append, activeForm?_append]
      by_cases hm : m ∈ ms
      · -- the module is there already: it is not added again and would have answered before
        rw [Registry.add_of_contains ((contains_registry ms m).2 hm), ih]
        cases hold : activeForm? ms call.shape with
        | some form => rfl
        | none =>
            rw [form?_eq_none_of_activeForm? hm hold]
            rfl
      · rw [translate_add call fun h => hm ((contains_registry ms m).1 h), ih]
        cases hold : activeForm? ms call.shape with
        | some form =>
            obtain ⟨e, he⟩ := exists_apply_of_activeForm? hold
            simp only [he, Option.some_or]
        | none => exact (congrFun m.rule_eq call).trans (m.table.rule_eq MethodCall.operands call)

/-- A registry of bundled modules replaces a call by what its form for the call makes of the
operands. -/
theorem translate_eq_replaced_iff {call : MethodCall} {e : Expr} :
    (registry ms).translate call = .replaced e ↔
      ∃ form, activeForm? ms call.shape = some form ∧ form.apply call.operands = .replaced e := by
  have hrule : (registry ms).translate call =
      (activeTable ms).rule MethodCall.operands call := by
    rw [translate_registry, TranslationTable.rule_eq, activeForm?]
  rw [hrule, TranslationTable.rule_eq_replaced_iff, activeForm?]

end BundledModule

end SqlLowering
