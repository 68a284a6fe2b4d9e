import SqlLowering.Proofs.Registration

/-!
# Registries that modules were added to

A registry is made by adding modules, any modules, one after the other. Of those that are added
under one key it keeps the first, and it answers a call by the first rule that does not decline. So
the rules it has never change their order, more of them only follow behind, and a call that once got
an answer, a replacement or an abort, keeps it.

* `Registry.addAll` : a run of additions, with what each of them said;
* `KeepsFirst.addAll`, `Registry.getElem?_addAll` : what is kept, and what was said of one module
  after others (`Registry.fst_add`);
* `answeredBy_iff` : the search through the rules gives the one outcome there is;
* `Registry.translate_addAll` : an answer stays.
-/

namespace SqlLowering

/-! ## Runs of additions -/

namespace Registry

/-- Adds modules one after the other; says of each whether it was added. -/
def addAll (r : Registry) : List TranslationModule → List Bool × Registry
  | [] => ([], r)
  | m :: ms =>
    let (added, r) := r.add m
    let (rest, r) := r.addAll ms
    (added :: rest, r)

theorem addAll_cons (r : Registry) (m : TranslationModule) (ms : List TranslationModule) :
    r.addAll (m :: ms) = ((r.add m).1 :: ((r.add m).2.addAll ms).1, ((r.add m).2.addAll ms).2) :=
  rfl

theorem addAll_append (r : Registry) (ms ms' : List TranslationModule) :
    r.addAll (ms ++ ms') =
      ((r.addAll ms).1 ++ ((r.addAll ms).2.addAll ms').1, ((r.addAll ms).2.addAll ms').2) := by
  induction ms generalizing r with
  | nil => rfl
  | cons m ms ih => rw [List.cons_append, addAll_cons, addAll_cons, ih, List.cons_append]

theorem length_fst_addAll (r : Registry) (ms : List TranslationModule) :
    (r.addAll ms).1.length = ms.length := by
  induction ms generalizing r with
  | nil => rfl
  | cons m ms ih => rw [addAll_cons, List.length_cons, List.length_cons, ih]

theorem fst_add (r : Registry) (m : TranslationModule) :
    (r.add m).1 = decide (m.key ∉ r.modules.map TranslationModule.key) := by
  rw [Bool.eq_iff_iff, decide_eq_true_iff, ← r.contains_iff]
  by_cases hm : r.contains m.key = true
  · simp [add, hm]
  · simp [add, hm]

end Registry

/-- **More modules** are kept if nothing was added under their key before. -/
theorem KeepsFirst.addAll {given : List TranslationModule} {r : Registry}
    (h : KeepsFirst TranslationModule.key given r.modules) (ms : List TranslationModule) :
    KeepsFirst TranslationModule.key (given ++ ms) (r.addAll ms).2.modules := by
  induction ms generalizing given r with
  | nil =>
      rw [List.append_nil]
      exact h
  | cons m ms ih =>
      have hrest := ih (h.add m)
      rw [List.append_assoc] at hrest
      exact hrest

namespace Registry

theorem keepsFirst_addAll (given : List TranslationModule) :
    KeepsFirst TranslationModule.key given (empty.addAll given).2.modules :=
  KeepsFirst.nil.addAll given

theorem getElem?_addAll (before : List TranslationModule) (m : TranslationModule)
    (after : List TranslationModule) :
    (empty.addAll (before ++ m :: after)).1[before.length]? =
      some (decide (m.key ∉ before.map TranslationModule.key)) := by
  have hlength := length_fst_addAll empty before
  have hkeys := (keepsFirst_addAll before).keys.mem_iff m.key
  rw [addAll_append, addAll_cons, List.getElem?_append_right (Nat.le_of_eq hlength), hlength,
    Nat.sub_self, List.getElem?_cons_zero, fst_add]
  simp only [hkeys]

/-! ## Rules -/

theorem ruleCount_eq_foldr (r : Registry) :
    r.ruleCount = r.modules.foldr (fun m n => m.rules.length + n) 0 := by
  unfold ruleCount rules
  induction r.modules with
  | nil => rfl
  | cons m ms ih => rw [List.flatMap_cons, List.length_append, ih, List.foldr_cons]

end Registry

theorem firstAnswer_of_forall_declined {call : MethodCall} {rules : List Rule}
    (h : ∀ rule ∈ rules, rule call = .declined) : firstAnswer call rules = .declined := by
  induction rules with
  | nil => rfl
  | cons rule rules ih =>
      rw [List.forall_mem_cons] at h
      rw [firstAnswer, h.1]
      exact ih h.2

/-- **The search finds the one outcome** that some rules have for a call. -/
theorem answeredBy_iff {call : MethodCall} {rules : List Rule} {o : Outcome} :
    AnsweredBy call rules o ↔ firstAnswer call rules = o := by
  constructor
  · rintro (hall | ⟨before, rule, after, rfl, hbefore, hrule⟩)
    · exact firstAnswer_of_forall_declined hall
    · rw [firstAnswer_append, firstAnswer_of_forall_declined hbefore]
      change firstAnswer call (rule :: after) = rule call
      rw [firstAnswer]
      split
      · rename_i hdeclined
        exact absurd hdeclined hrule
      · rfl
  · rintro rfl
    exact answeredBy_firstAnswer call rules

namespace Registry

/-- More modules have their rules behind those that were there. -/
theorem rules_prefix_add (r : Registry) (m : TranslationModule) :
    r.rules <+: (r.add m).2.rules := by
  by_cases hm : r.contains m.key = true
  · exact ⟨[], by rw [add_of_contains hm, List.append_nil]⟩
  · rw [add_of_not_contains hm]
    unfold rules
    rw [List.flatMap_append]
    exact List.prefix_append ..

theorem rules_prefix_addAll (r : Registry) (ms : List TranslationModule) :
    r.rules <+: (r.addAll ms).2.rules := by
  induction ms generalizing r with
  | nil => exact List.prefix_rfl
  | cons m ms ih => exact (r.rules_prefix_add m).trans (ih (r.add m).2)

/-- **An answer stays**, whatever modules are added later. -/
theorem translate_addAll {r : Registry} {call : MethodCall} (h : r.translate call ≠ .declined)
    (ms : List TranslationModule) : (r.addAll ms).2.translate call = r.translate call := by
  obtain ⟨more, hmore⟩ := r.rules_prefix_addAll ms
  unfold translate at h ⊢
  rw [← hmore, firstAnswer_append]
  split
  · rename_i hdeclined
    exact absurd hdeclined h
  · rfl

/-! ## The law -/

/-- **First come, first served.** However modules were added, of those under one key the first is
kept and was said to be added, and no other; each call has the outcome of the first rule that does
not decline it; and once that is a replacement or an abort, no further module changes it. -/
theorem first_added_first_asked (given : List TranslationModule) :
    KeepsFirst TranslationModule.key given (empty.addAll given).2.modules ∧
    (empty.addAll given).1.length = given.length ∧
    (∀ (before : List TranslationModule) (m : TranslationModule) (after : List TranslationModule),
      given = before ++ m :: after →
      (empty.addAll given).1[before.length]? =
        some (decide (m.key ∉ before.map TranslationModule.key))) ∧
    (empty.addAll given).2.ruleCount =
      (empty.addAll given).2.modules.foldr (fun m n => m.rules.length + n) 0 ∧
    ∀ call : MethodCall,
      (∀ o : Outcome, (empty.addAll given).2.translate call = o ↔
        AnsweredBy call ((empty.addAll given).2.modules.flatMap TranslationModule.rules) o) ∧
      ((empty.addAll given).2.translate call ≠ .declined →
        ∀ more : List TranslationModule,
          ((empty.addAll given).2.addAll more).2.translate call =
            (empty.addAll given).2.translate call) := by
  refine ⟨keepsFirst_addAll given, length_fst_addAll empty given, ?_, ruleCount_eq_foldr _, ?_⟩
  · rintro before m after rfl
    exact getElem?_addAll before m after
  · intro call
    exact ⟨fun o => answeredBy_iff.symm, fun h more => translate_addAll h more⟩

end Registry

def MethodCall.soundex : MethodCall :=
  ⟨.dbFunctions, "Soundex", none, []⟩

namespace Registry

/-- Rules that decline, abort and replace, and a key that comes again. -/
def threeModules : List TranslationModule :=
  [⟨"silent", "", [fun _ => .declined]⟩,
    ⟨"broken", "", [fun _ => .aborted "broken", fun call => .replaced call.toExpr]⟩,
    ⟨"silent", "", [fun call => .replaced call.toExpr]⟩]

/-- The rule that aborts is reached, it is not skipped, and the module that came last is not
kept. -/
theorem first_added_first_asked_threeModules :
    (empty.addAll threeModules).1[2]? = some false ∧
    (empty.addAll threeModules).2.ruleCount = 3 ∧
    AnsweredBy .soundex ((empty.addAll threeModules).2.modules.flatMap TranslationModule.rules)
      (.aborted "broken") ∧
    ∀ more : List TranslationModule,
      ((empty.addAll threeModules).2.addAll more).2.translate .soundex = .aborted "broken" := by
  have hbroken : (empty.addAll threeModules).2.translate .soundex = .aborted "broken" := rfl
  have hanswered : (empty.addAll threeModules).2.translate .soundex ≠ .declined := by
    rw [hbroken]
    exact Outcome.noConfusion
  obtain ⟨-, -, hsaid, hcount, hanswers⟩ := first_added_first_asked threeModules
  refine ⟨hsaid (threeModules.take 2) _ [] rfl, hcount, ((hanswers _).1 _).1 hbroken, ?_⟩
  intro more
  rw [(hanswers _).2 hanswered more, hbroken]

end Registry

end SqlLowering
