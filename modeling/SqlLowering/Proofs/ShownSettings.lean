import SqlLowering.Proofs.Failures
import SqlLowering.Proofs.History
import SqlLowering.Proofs.Settings

/-!
# Configurations that show the same settings

Compilation looks at two settings: whether translation is strict, and the length for casts to text
that have no positive length of their own. Two configurations that show the same values for all
settings compile alike, but for one thing that the settings do not show. They show a default length
of zero as they show none; and while writing zero leaves no length, a configuration that is put
together by hand can hold a zero, which casts take for a bound.

* `Config.eq_of_read_eq` : nothing but a length of zero can differ.
* `Expr.lowered_congr_castTarget` : lowering looks at the default length only where a cast takes it.
-/

namespace SqlLowering

theorem length?_eq_of_getD_eq {x y : Option UInt32} (h : x.getD 0 = y.getD 0)
    (hzero : x = some 0 ↔ y = some 0) : x = y := by
  cases x with
  | none =>
      cases y with
      | none => rfl
      | some n =>
          obtain rfl : 0 = n := h
          exact hzero.2 rfl
  | some m =>
      cases y with
      | none =>
          obtain rfl : m = 0 := h
          exact (hzero.1 rfl).symm
      | some n => exact congrArg some h

namespace Config

variable {c d : Config}

theorem getD_length_of_read_eq
    (h : c.read .defaultStringLength = d.read .defaultStringLength) :
    c.defaultStringLength.getD 0 = d.defaultStringLength.getD 0 := by
  have hnumber := congrArg UInt64.toUInt32 (SettingValue.number.inj h)
  rwa [UInt32.toUInt32_toUInt64, UInt32.toUInt32_toUInt64] at hnumber

/-- The configurations are equal when what they show is, and both or neither hold a length of
zero. -/
theorem eq_of_read_eq (hread : ∀ s, c.read s = d.read s)
    (hzero : c.defaultStringLength = some 0 ↔ d.defaultStringLength = some 0) : c = d := by
  refine eq_of_agreesOn fun s => ?_
  cases s with
  | applicationName => exact SettingValue.text.inj (hread .applicationName)
  | strictTranslation => exact SettingValue.flag.inj (hread .strictTranslation)
  | defaultStringLength =>
      exact length?_eq_of_getD_eq (getD_length_of_read_eq (hread .defaultStringLength)) hzero

/-- A cast to text with a positive length of its own, or to another type, does not take the default
length. -/
theorem castTarget_congr (c d : Config) {t : DataType}
    (h : t.base = .text → ∃ n, t.maxLength = some n ∧ 0 < n) : c.castTarget t = d.castTarget t := by
  unfold castTarget
  split
  · rename_i hbase
    obtain ⟨n, hn, hpos⟩ := h hbase
    have hown : (t.maxLength.filter fun n => 0 < n) = some n := by
      rw [hn, Option.filter_some, if_pos (decide_eq_true hpos)]
    rw [hown]
    rfl
  · rfl

end Config

/-- **Lowering looks at a configuration only where casts do.** -/
theorem Expr.lowered_congr_castTarget {registry : Registry} {c d : Config} (e : Expr)
    (h : ∀ site ∈ e.casts, c.castTarget site.target = d.castTarget site.target) :
    e.lowered registry c = e.lowered registry d := by
  induction e with
  | column name type => rfl
  | literal value => rfl
  | methodCall t m r as hr has =>
      rw [casts, castsOption_eq, castsList_eq] at h
      have hr' : loweredOption registry c r = loweredOption registry d r := by
        cases r with
        | none => rfl
        | some x =>
            refine loweredOption_congr (.some (hr x rfl fun site hsite => h site ?_))
            simp [hsite]
      have has' : loweredList registry c as = loweredList registry d as :=
        loweredList_congr <| List.forall₂_same.2 fun x hx => has x hx fun site hsite =>
          h site (List.mem_append_right _ (List.mem_flatMap.2 ⟨x, hx, hsite⟩))
      rw [lowered, lowered, hr', has']
  | function name as has =>
      rw [casts, castsList_eq] at h
      have has' : loweredList registry c as = loweredList registry d as :=
        loweredList_congr <| List.forall₂_same.2 fun x hx => has x hx fun site hsite =>
          h site (List.mem_flatMap.2 ⟨x, hx, hsite⟩)
      rw [lowered, lowered, has']
  | binary operator l r hl hr =>
      rw [lowered, lowered, hl fun site hsite => h site (List.mem_append_left _ hsite),
        hr fun site hsite => h site (List.mem_append_right _ hsite)]
  | cast target storeType x hx =>
      have htarget := h ⟨target, x⟩ (List.mem_append_right _ (List.mem_singleton_self _))
      rw [lowered, lowered, hx fun site hsite => h site (List.mem_append_left _ hsite)]
      simp only [Config.resolvedCast, htarget]
  | index a is origin ha his =>
      rw [casts, castsList_eq] at h
      have his' : loweredList registry c is = loweredList registry d is :=
        loweredList_congr <| List.forall₂_same.2 fun x hx => his x hx fun site hsite =>
          h site (List.mem_append_right _ (List.mem_flatMap.2 ⟨x, hx, hsite⟩))
      rw [lowered, lowered, ha fun site hsite => h site (List.mem_append_left _ hsite), his']

theorem compiled_congr_castTarget {registry : Registry} {c d : Config} {e : Expr}
    (hstrict : c.strictTranslation = d.strictTranslation)
    (h : ∀ site ∈ e.casts, c.castTarget site.target = d.castTarget site.target) :
    compiled registry c e = compiled registry d e := by
  have hlowered : ∀ e', Compiled.ofLowered c e' = Compiled.ofLowered d e' := fun e' => by
    rw [Compiled.ofLowered, Compiled.ofLowered, hstrict]
  simp only [compiled, e.lowered_congr_castTarget h, hlowered]

/-! ## Casts of a name to text -/

def Expr.nameAsText : Expr :=
  .cast ⟨.text, none⟩ none (.column "name" .text)

theorem size_textOfLength (length : Option UInt32) :
    (length.elim unboundedText boundedText).size = length := by
  cases length <;> rfl

theorem compiled_nameAsText (registry : Registry) (c : Config) :
    compiled registry c .nameAsText =
      .ok ⟨.cast ⟨.text, none⟩ (some (c.defaultStringLength.elim unboundedText boundedText))
          (.column "name" .text),
        "CAST(name AS " ++ (c.defaultStringLength.elim unboundedText boundedText).storeType ++ ")",
        []⟩ := by
  obtain ⟨name, strict, length⟩ := c
  cases strict <;> cases length <;> rfl

namespace Container

/-- **Configurations that show the same settings compile alike, unless one of them alone holds a
length of zero**; and then they still do what has no cast to text without a positive length. -/
theorem compile_of_shown (events : List ContainerEvent) {c d : Config}
    (hshown : ∀ name, c.get name = d.get name) :
    let k := ofEvents events
    ((∀ e : Expr, (k.compile c e).1 = (k.compile d e).1) ↔
      (c.defaultStringLength = some 0 ↔ d.defaultStringLength = some 0)) ∧
    ∀ e : Expr,
      (∀ site ∈ e.casts, site.target.base = .text → ∃ n, site.target.maxLength = some n ∧ 0 < n) →
      (k.compile c e).1 = (k.compile d e).1 := by
  intro k
  have hk : k.mappings.Faithful := faithful_foldl_step MappingSource.faithful_empty events
  have hread := Config.forall_get_eq_iff.1 hshown
  refine ⟨⟨fun h => ?_, fun hzero e => ?_⟩, fun e hcasts => ?_⟩
  · have hname := h .nameAsText
    rw [compile_fst hk, compile_fst hk, compiled_nameAsText, compiled_nameAsText] at hname
    have hcast := congrArg Compiled.expr (Except.ok.inj hname)
    have hstore := congrArg TypeDescriptor.size (Option.some.inj (Expr.cast.inj hcast).2.1)
    rw [size_textOfLength, size_textOfLength] at hstore
    rw [hstore]
  · rw [Config.eq_of_read_eq hread hzero]
  · rw [compile_fst hk, compile_fst hk]
    exact compiled_congr_castTarget (SettingValue.flag.inj (hread .strictTranslation))
      fun site hsite => c.castTarget_congr d (hcasts site hsite)

/-- After a cast that took a length of zero for a bound, the configuration without a length still
compiles a cast with a length of its own as the configuration with the zero does, but not all
casts. -/
theorem compile_of_shown_ownLength :
    let c : Config := ⟨"", true, some 0⟩
    let d : Config := ⟨"", true, none⟩
    let k := ofEvents [.addModule BundledModule.unaccent.extension.module,
      .call (.compile c .nameAsText)]
    let e : Expr := .cast ⟨.text, some 20⟩ none
      (.methodCall .dbFunctions "Unaccent" none [.cast ⟨.bytea, none⟩ none (.column "name" .text)])
    (∀ name, c.get name = d.get name) ∧ k.mappings.text.size = 1 ∧
      (∃ out, (k.compile c e).1 = .ok out ∧ (k.compile d e).1 = .ok out ∧
        out.sql = "CAST(unaccent(CAST(name AS bytea)) AS character varying(20))") ∧
      ¬ ∀ e : Expr, (k.compile c e).1 = (k.compile d e).1 := by
  intro c d k e
  have hshown : ∀ name, c.get name = d.get name :=
    Config.forall_get_eq_iff.2 fun s => by cases s <;> rfl
  have hsame := compile_of_shown [.addModule BundledModule.unaccent.extension.module,
    .call (.compile c .nameAsText)] hshown
  refine ⟨hshown, rfl, ⟨_, rfl, ?_, rfl⟩, fun h => ?_⟩
  · refine (hsame.2 e fun site hsite htext => ?_).symm
    change site ∈ [CastSite.mk ⟨.bytea, none⟩ _, CastSite.mk ⟨.text, some 20⟩ _] at hsite
    rcases List.mem_cons.1 hsite with rfl | hsite
    · cases htext
    · rw [List.mem_singleton.1 hsite]
      exact ⟨20, rfl, by decide⟩
  · cases (hsame.1.1 h).1 rfl

/-- A length of zero is shown as none is, but a cast of a name to text takes it for a bound. -/
theorem compile_nameAsText_zeroLength :
    let c : Config := ⟨"", true, some 0⟩
    let d : Config := ⟨"", true, none⟩
    (∀ name, c.get name = d.get name) ∧
      (∃ out, (empty.compile c .nameAsText).1 = .ok out ∧
        out.sql = "CAST(name AS character varying(0))") ∧
      (∃ out, (empty.compile d .nameAsText).1 = .ok out ∧ out.sql = "CAST(name AS text)") ∧
      (empty.compile c .nameAsText).1 ≠ (empty.compile d .nameAsText).1 := by
  intro c d
  refine ⟨Config.forall_get_eq_iff.2 fun s => by cases s <;> rfl, ⟨_, rfl, rfl⟩, ⟨_, rfl, rfl⟩,
    fun h => ?_⟩
  have hsql := congrArg (fun r : Except CompileFailure Compiled => r.toOption.map Compiled.sql) h
  exact absurd hsql (by decide)

end Container

end SqlLowering
