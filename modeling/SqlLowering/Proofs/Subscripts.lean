import SqlLowering.Proofs.History
import SqlLowering.Proofs.Leaves

/-!
# Subscripts one by one

An access that counts from zero is lowered in one of two ways. When all subscripts are integer
constants, they are shifted together, as numbers of 64 bits. Otherwise each is shifted for itself,
and a constant of 32 bits may keep its width. Which way is taken depends on all the subscripts, and
the text of each is the same either way: the width of an integer constant does not show
(`render_of_integer?`), and both ways take the next integer, or the largest one again
(`toInt64_oneBased`).

So the text of a subscript is decided by this subscript alone (`map_render_oneBasedList`),
whatever the others are.
-/

namespace SqlLowering

namespace Expr

/-! ## Texts -/

theorem render_of_integer? {e : Expr} {n : Int64} (h : e.integer? = some n) :
    e.render = Text.intText n.toInt := by
  obtain ⟨value, hvalue, hn⟩ := Option.bind_eq_some_iff.1 h
  obtain rfl := eq_literal_of_constant? hvalue
  cases value with
  | int32 m =>
      obtain rfl := Option.some.inj hn
      rw [Int32.toInt_toInt64]
      rfl
  | int64 m =>
      obtain rfl := Option.some.inj hn
      rfl
  | _ => cases hn

theorem render_oneBased_of_integer? {e : Expr} {n : Int64} (h : e.integer? = some n) :
    e.oneBased.render = Text.intText (saturatingNext n).toInt :=
  render_of_integer? (toInt64_oneBased h)

/-- **Each subscript has the text that it has when it is shifted alone.** -/
theorem map_render_oneBasedList (es : List Expr) :
    (oneBasedList es).map render = es.map fun e => e.oneBased.render := by
  cases hconstants : constants? es with
  | some ns =>
      rw [oneBasedList_of_constants? hconstants, List.map_map, List.map_map]
      rw [constants?_eq_some_iff] at hconstants
      induction hconstants with
      | nil => rfl
      | cons hn _ ih =>
          rw [List.map_cons, List.map_cons, ih, render_oneBased_of_integer? hn]
          rfl
  | none =>
      rw [oneBasedList, hconstants]
      exact List.map_map

/-- The text at a place, with any other subscripts before and behind it. -/
theorem render_oneBasedList_middle (before after : List Expr) (e : Expr) :
    ((oneBasedList (before ++ e :: after))[before.length]?).map render =
      some e.oneBased.render := by
  rw [← List.getElem?_map, map_render_oneBasedList, List.getElem?_map,
    List.getElem?_append_right (Nat.le_refl _), Nat.sub_self]
  rfl

theorem oneBasedList_map_literal {values : List Scalar} (h : ∀ v ∈ values, v.toInt64?.isSome) :
    oneBasedList (values.map literal) =
      (Coordinates.mk (values.filterMap Scalar.toInt64?)).oneBased.map
        fun n => literal (.int64 n) := by
  have hconstants : constants? (values.map literal) = some (values.filterMap Scalar.toInt64?) := by
    induction values with
    | nil => rfl
    | cons v values ih =>
        rw [List.forall_mem_cons] at h
        obtain ⟨n, hn⟩ := Option.isSome_iff_exists.1 h.1
        have hinteger : (literal v).integer? = some n := hn
        rw [List.map_cons, constants?_cons, hinteger, ih h.2, List.filterMap_cons_some hn]
        rfl
  rw [oneBasedList, hconstants]

theorem exists_lowered_index_iff {registry : Registry} {config : Config} {a : Expr}
    {is : List Expr} {origin : Origin} :
    (∃ e, (index a is origin).lowered registry config = .ok e) ↔
      ∀ x ∈ a :: is, ∃ x', x.lowered registry config = .ok x' := by
  rw [List.forall_mem_cons, ← exists_loweredList_iff]
  constructor
  · rintro ⟨e, h⟩
    obtain ⟨a', is', ha, his, -⟩ := lowered_index_eq_ok h
    exact ⟨⟨a', ha⟩, is', loweredList_eq_ok_iff.2 his⟩
  · rintro ⟨⟨a', ha⟩, is', his⟩
    refine ⟨indexFromOne a' is' origin, ?_⟩
    rw [lowered, ha, his]
    rfl

end Expr

/-! ## Accesses -/

namespace Container

open SqlLowering.Expr (literal oneBasedList)

/-- **Each subscript is shifted for itself.** A container with any modules and any history lowers an
access when it lowers the array and the subscripts. If the access counts from zero, there are as
many subscripts afterwards, in the same order, and each has the text of the lowered subscript when
it is shifted alone. If it counts from one, they are the lowered subscripts. Integer constants are
shifted together, and each has the same text as when it is shifted alone and as beside any other
subscripts. Of bundled modules, it does not matter whether the single subscript is shifted before it
is lowered or afterwards. -/
theorem lower_subscripts (events : List ContainerEvent) (config : Config) (array : Expr)
    (subscripts : List Expr) :
    let c := ofEvents events
    (∀ origin, (∃ e, c.lower config (.index array subscripts origin) = .ok e) ↔
      ∀ x ∈ array :: subscripts, ∃ x', c.lower config x = .ok x') ∧
    (∀ e, c.lower config (.index array subscripts .zero) = .ok e →
      ∃ array' subscripts' shifted, e = .index array' shifted .one ∧
        c.lower config array = .ok array' ∧
        List.Forall₂ (fun x x' => c.lower config x = .ok x') subscripts subscripts' ∧
        shifted.map Expr.render = subscripts'.map fun x' => x'.oneBased.render) ∧
    (∀ e, c.lower config (.index array subscripts .one) = .ok e →
      ∃ array' subscripts', e = .index array' subscripts' .one ∧
        c.lower config array = .ok array' ∧
        List.Forall₂ (fun x x' => c.lower config x = .ok x') subscripts subscripts') ∧
    (∀ values : List Scalar, (∀ v ∈ values, v.toInt64?.isSome) →
      let together := (Coordinates.mk (values.filterMap Scalar.toInt64?)).oneBased.map
        fun n => literal (.int64 n)
      (∀ array', c.lower config array = .ok array' →
        c.lower config (.index array (values.map literal) .zero) =
          .ok (.index array' together .one)) ∧
      together.map Expr.render = values.map (fun v => (literal v).oneBased.render) ∧
      ∀ v ∈ values, ∀ before after,
        ((oneBasedList (before ++ literal v :: after))[before.length]?).map Expr.render =
          some (literal v).oneBased.render) ∧
    ∀ ms, c.registry = BundledModule.registry ms → ∀ x x', c.lower config x = .ok x' →
      c.lower config x.oneBased = .ok x'.oneBased := by
  intro c
  have hlower : ∀ e, c.lower config e = e.lowered c.registry config :=
    lower_eq (faithful_ofEvents events) config
  simp only [hlower]
  refine ⟨fun origin => Expr.exists_lowered_index_iff, fun e h => ?_, fun e h => ?_,
    fun values hvalues => ?_, fun ms hms x x' hx => ?_⟩
  · obtain ⟨array', subscripts', harray, hsubscripts, rfl⟩ := Expr.lowered_index_eq_ok h
    exact ⟨array', subscripts', oneBasedList subscripts', rfl, harray, hsubscripts,
      Expr.map_render_oneBasedList subscripts'⟩
  · obtain ⟨array', subscripts', harray, hsubscripts, rfl⟩ := Expr.lowered_index_eq_ok h
    exact ⟨array', subscripts', rfl, harray, hsubscripts⟩
  · have htogether := Expr.oneBasedList_map_literal hvalues
    rw [← htogether]
    refine ⟨fun array' harray => ?_, ?_, fun v _ before after => ?_⟩
    · rw [Expr.lowered, harray, Expr.loweredList_map_literal]
      rfl
    · rw [Expr.map_render_oneBasedList, List.map_map]
      rfl
    · exact Expr.render_oneBasedList_middle before after (literal v)
  · rw [hms] at hx ⊢
    rw [Expr.lowered_oneBased, hx]
    rfl

/-- The largest constants of both widths and a negative one are shifted together. Beside a call, the
largest of 32 bits has the same text. -/
theorem lower_subscripts_largest :
    let c := ofEvents [.addModule BundledModule.fuzzyMatch.extension.module]
    let array : Expr := .column "grid" .collection
    let values : List Scalar := [.int32 Int32.maxValue, .int64 Int64.maxValue, .int32 (-3)]
    let sound : Expr := .methodCall .dbFunctions "Soundex" none [.column "name" .text]
    (∃ e, c.lower .initial (.index array (values.map literal) .zero) = .ok e ∧
      e.render = "grid[2147483648][9223372036854775807][-2]") ∧
    (∃ e, c.lower .initial (.index array [literal (.int32 Int32.maxValue), sound] .zero) = .ok e ∧
      e.render = "grid[2147483648][(soundex(name) + 1)]") ∧
    ((oneBasedList [sound, literal (.int32 Int32.maxValue)])[1]?).map Expr.render =
      some "2147483648" ∧
    c.lower .initial sound.oneBased =
      .ok (.binary "+" (.function "soundex" [.column "name" .text]) (literal (.int32 1))) := by
  intro c array values sound
  obtain ⟨-, -, -, hconstants, halone⟩ := lower_subscripts
    [.addModule BundledModule.fuzzyMatch.extension.module] .initial array [sound]
  obtain ⟨htogether, -, hbeside⟩ := hconstants values (by decide)
  refine ⟨⟨_, htogether array rfl, by decide⟩, ⟨_, rfl, by decide⟩, ?_, ?_⟩
  · exact (hbeside (.int32 Int32.maxValue) (by decide) [sound] []).trans (by decide)
  · exact halone [.fuzzyMatch] rfl sound _ rfl

end Container

end SqlLowering
