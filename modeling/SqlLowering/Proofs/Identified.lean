import SqlLowering.Expr.Render
import SqlLowering.Proofs.NormalForm
import SqlLowering.Proofs.Staging

/-!
# Expressions that SQL does not tell apart

SQL text does not show everything: an integer constant has no width in it, a column no type, and a
cast with a store type no other target; and one access after another looks like one access with all
the subscripts, while an access without subscripts looks like its array. `Identified` lists these
differences, and `Alike` is the least equivalence that has them in every context.

Alike expressions have the same text (`Alike.render_eq`). They also agree in whether every access
in them counts from one and every cast has a store type from the mappings
(`Alike.everywhere_standard_iff`), which the text does not show. In the other direction each native
expression is alike to one in which nothing is left to choose, its canonical form
(`Expr.alike_canonical`), so expressions with the same canonical form are alike.
-/

namespace SqlLowering

/-- The differences that SQL does not show. -/
inductive Identified : Expr → Expr → Prop
  | integer (n : Int32) : Identified (.literal (.int32 n)) (.literal (.int64 n.toInt64))
  | nested (array : Expr) (inner outer : List Expr) :
      Identified (.index (.index array inner .one) outer .one)
        (.index array (inner ++ outer) .one)
  | bare (array : Expr) : Identified (.index array [] .one) array
  | columnType (name : String) (t t' : ValueType) : Identified (.column name t) (.column name t')
  | castTarget (t t' : DataType) (descriptor : TypeDescriptor) (operand : Expr) :
      Identified (.cast t (some descriptor) operand) (.cast t' (some descriptor) operand)

/-- The expressions are equal up to these differences, anywhere in them. -/
inductive Alike : Expr → Expr → Prop
  | step {e e' : Expr} : Identified e e' → Alike e e'
  | refl (e : Expr) : Alike e e
  | symm {e e' : Expr} : Alike e e' → Alike e' e
  | trans {e e' e'' : Expr} : Alike e e' → Alike e' e'' → Alike e e''
  | plug {e e' : Expr} (C : Context) : Alike e e' → Alike (C.plug e) (C.plug e')

/-! ## The text of alike expressions -/

namespace Expr

theorem renderList_eq (es : List Expr) : renderList es = es.map render := by
  induction es with
  | nil => rfl
  | cons e es ih => rw [renderList, ih, List.map_cons]

theorem renderSubscripts_append (es es' : List Expr) :
    renderSubscripts (es ++ es') = renderSubscripts es ++ renderSubscripts es' := by
  induction es with
  | nil => simp [renderSubscripts]
  | cons e es ih =>
      rw [List.cons_append, renderSubscripts, renderSubscripts, ih]
      simp only [String.append_assoc]

end Expr

theorem Identified.render_eq {e e' : Expr} (h : Identified e e') : e.render = e'.render := by
  cases h with
  | integer n => simp [Expr.render, Scalar.render]
  | nested array inner outer =>
      rw [Expr.render, Expr.render, Expr.render, Expr.renderSubscripts_append, String.append_assoc]
  | bare array => simp [Expr.render, Expr.renderSubscripts]
  | columnType name t t' => rfl
  | castTarget t t' descriptor operand => rfl

theorem Context.render_plug (C : Context) {e e' : Expr} (h : e.render = e'.render) :
    (C.plug e).render = (C.plug e').render := by
  have hlist : ∀ (before after : List Expr) {x x' : Expr}, x.render = x'.render →
      Expr.renderList (before ++ x :: after) = Expr.renderList (before ++ x' :: after) := by
    intro before after x x' hx
    simp only [Expr.renderList_eq, List.map_append, List.map_cons, hx]
  induction C with
  | hole => exact h
  | receiver t m inner args ih =>
      simp only [plug, Expr.render, Expr.renderReceiver, ih]
  | argument t m r before inner after ih =>
      simp only [plug, Expr.render, hlist before after ih]
  | operand name before inner after ih =>
      simp only [plug, Expr.render, hlist before after ih]
  | left operator inner r ih => simp only [plug, Expr.render, ih]
  | right operator l inner ih => simp only [plug, Expr.render, ih]
  | cast target storeType inner ih =>
      cases storeType <;> simp only [plug, Expr.render, ih]
  | array inner subscripts origin ih => simp only [plug, Expr.render, ih]
  | subscript a before inner after origin ih =>
      simp only [plug, Expr.render, Expr.renderSubscripts_append, Expr.renderSubscripts, ih]

/-- **Alike expressions have the same text.** -/
theorem Alike.render_eq {e e' : Expr} (h : Alike e e') : e.render = e'.render := by
  induction h with
  | step h => exact h.render_eq
  | refl e => rfl
  | symm _ ih => exact ih.symm
  | trans _ _ ih ih' => exact ih.trans ih'
  | plug C _ ih => exact C.render_plug ih

/-! ## Standard expressions -/

namespace Expr

/-- An access counts from one, and a cast has the store type of the data type that it describes. -/
def Standard : Expr → Prop
  | cast _ none _ => False
  | cast _ (some descriptor) _ => descriptor.dataType.storeType? = some descriptor
  | index _ _ origin => origin = .one
  | _ => True

instance : DecidablePred Standard
  | cast _ none _ => isFalse id
  | cast _ (some descriptor) _ =>
    inferInstanceAs (Decidable (descriptor.dataType.storeType? = some descriptor))
  | index _ _ origin => inferInstanceAs (Decidable (origin = .one))
  | column _ _ | literal _ | methodCall _ _ _ _ | function _ _ | binary _ _ _ => isTrue trivial

end Expr

theorem Identified.everywhere_standard_iff {e e' : Expr} (h : Identified e e') :
    e.Everywhere Expr.Standard ↔ e'.Everywhere Expr.Standard := by
  cases h with
  | integer n => exact Expr.everywhere_congr Iff.rfl Iff.rfl
  | nested array inner outer =>
      refine Expr.everywhere_congr Iff.rfl ?_
      rw [Expr.children, Expr.children, List.forall_mem_cons, List.forall_mem_cons,
        Expr.everywhere_iff, Expr.children, List.forall_mem_cons, List.forall_mem_append]
      exact ⟨fun h => ⟨h.1.2.1, h.1.2.2, h.2⟩, fun h => ⟨⟨rfl, h.1, h.2.1⟩, h.2.2⟩⟩
  | bare array =>
      rw [Expr.everywhere_iff, Expr.children, List.forall_mem_singleton]
      exact and_iff_right rfl
  | columnType name t t' => exact Expr.everywhere_congr Iff.rfl Iff.rfl
  | castTarget t t' descriptor operand => exact Expr.everywhere_congr Iff.rfl Iff.rfl

/-- A node is standard or not whatever the expressions in it are. -/
theorem Context.everywhere_standard_plug (C : Context) {e e' : Expr}
    (h : e.Everywhere Expr.Standard ↔ e'.Everywhere Expr.Standard) :
    (C.plug e).Everywhere Expr.Standard ↔ (C.plug e').Everywhere Expr.Standard := by
  have hlist : ∀ (before after : List Expr) {x x' : Expr},
      (x.Everywhere Expr.Standard ↔ x'.Everywhere Expr.Standard) →
      ((∀ y ∈ before ++ x :: after, y.Everywhere Expr.Standard) ↔
        ∀ y ∈ before ++ x' :: after, y.Everywhere Expr.Standard) := by
    intro before after x x' hx
    simp only [List.forall_mem_append, List.forall_mem_cons, hx]
  induction C with
  | hole => exact h
  | receiver t m inner args ih => exact Expr.everywhere_congr Iff.rfl (hlist [] args ih)
  | argument t m r before inner after ih =>
      refine Expr.everywhere_congr Iff.rfl ?_
      simp only [plug, Expr.children, List.forall_mem_append, List.forall_mem_cons, ih]
  | operand name before inner after ih =>
      exact Expr.everywhere_congr Iff.rfl (hlist before after ih)
  | left operator inner r ih => exact Expr.everywhere_congr Iff.rfl (hlist [] [r] ih)
  | right operator l inner ih => exact Expr.everywhere_congr Iff.rfl (hlist [l] [] ih)
  | cast target storeType inner ih =>
      cases storeType <;> exact Expr.everywhere_congr Iff.rfl (hlist [] [] ih)
  | array inner subscripts origin ih => exact Expr.everywhere_congr Iff.rfl (hlist [] subscripts ih)
  | subscript a before inner after origin ih =>
      exact Expr.everywhere_congr Iff.rfl (hlist (a :: before) after ih)

/-- **Of alike expressions both are standard everywhere, or none is.** -/
theorem Alike.everywhere_standard_iff {e e' : Expr} (h : Alike e e') :
    e.Everywhere Expr.Standard ↔ e'.Everywhere Expr.Standard := by
  induction h with
  | step h => exact h.everywhere_standard_iff
  | refl e => exact Iff.rfl
  | symm _ ih => exact ih.symm
  | trans _ _ ih ih' => exact ih.trans ih'
  | plug C _ ih => exact C.everywhere_standard_plug ih

/-! ## Alike operands -/

namespace Alike

/-- Operands may be replaced one after the other. -/
theorem of_forall₂ (make : List Expr → Expr)
    (hmake : ∀ (before after : List Expr) {x x' : Expr}, Alike x x' →
      Alike (make (before ++ x :: after)) (make (before ++ x' :: after)))
    {es es' : List Expr} (h : List.Forall₂ Alike es es') : Alike (make es) (make es') := by
  have hfrom : ∀ before, Alike (make (before ++ es)) (make (before ++ es')) := by
    induction h with
    | nil => exact fun before => .refl _
    | @cons x x' es es' hx _ ih =>
        intro before
        have hrest := ih (before ++ [x'])
        rw [List.append_assoc, List.append_assoc] at hrest
        exact (hmake before es hx).trans hrest
  exact hfrom []

theorem function (name : String) {as as' : List Expr} (h : List.Forall₂ Alike as as') :
    Alike (.function name as) (.function name as') :=
  of_forall₂ (.function name)
    (fun before after _ _ hx => hx.plug (.operand name before .hole after)) h

theorem binary (operator : String) {l l' r r' : Expr} (hl : Alike l l') (hr : Alike r r') :
    Alike (.binary operator l r) (.binary operator l' r') :=
  (hl.plug (.left operator .hole r)).trans (hr.plug (.right operator l' .hole))

theorem index {a a' : Expr} {is is' : List Expr} (ha : Alike a a')
    (his : List.Forall₂ Alike is is') : Alike (.index a is .one) (.index a' is' .one) := by
  have hsubscripts : Alike (.index a' is .one) (.index a' is' .one) :=
    of_forall₂ (fun is => .index a' is .one)
      (fun before after _ _ hx => hx.plug (.subscript a' before .hole after .one)) his
  exact (ha.plug (.array .hole is .one)).trans hsubscripts

end Alike

/-! ## Canonical forms -/

def Scalar.canonical : Scalar → Scalar
  | int32 n => int64 n.toInt64
  | value => value

namespace Expr

/-- The access to further subscripts, in the access that is there already if there is one. -/
def subscripted (e : Expr) (subscripts : List Expr) : Expr :=
  match subscripts, e with
  | [], e => e
  | i :: is, index a js .one => index a (js ++ i :: is) .one
  | i :: is, e => index e (i :: is) .one

theorem subscripted_subscripted (e : Expr) (is js : List Expr) :
    (e.subscripted is).subscripted js = e.subscripted (is ++ js) := by
  cases is with
  | nil => rfl
  | cons i is =>
      cases js with
      | nil => rw [List.append_nil]; rfl
      | cons j js =>
          cases e with
          | index a ks origin =>
              cases origin with
              | zero => rfl
              | one => simp [subscripted]
          | _ => rfl

mutual

/-- The native expression in which nothing is left to choose that its text does not show. -/
def canonical : Expr → Expr
  | column name _ => column name .null
  | literal value => literal value.canonical
  | methodCall t m r as => methodCall t m r as
  | function name as => function name (canonicalList as)
  | binary operator l r => binary operator l.canonical r.canonical
  | cast target none x => cast target none x
  | cast _ (some descriptor) x => cast descriptor.dataType (some descriptor) x.canonical
  | index a is .zero => index a is .zero
  | index a is .one => a.canonical.subscripted (canonicalList is)

def canonicalList : List Expr → List Expr
  | [] => []
  | e :: es => e.canonical :: canonicalList es

end

theorem canonicalList_eq (es : List Expr) : canonicalList es = es.map canonical := by
  induction es with
  | nil => rfl
  | cons e es ih => rw [canonicalList, ih, List.map_cons]

theorem alike_subscripted (e : Expr) (is : List Expr) :
    Alike (index e is .one) (e.subscripted is) := by
  unfold subscripted
  split
  · exact .step (.bare _)
  · exact .step (.nested _ _ _)
  · exact .refl _

/-- **Each expression is alike to its canonical form.** -/
theorem alike_canonical (e : Expr) : Alike e e.canonical := by
  have hlist : ∀ {es : List Expr}, (∀ x ∈ es, Alike x x.canonical) →
      List.Forall₂ Alike es (canonicalList es) := by
    intro es h
    rw [canonicalList_eq, List.forall₂_map_right_iff, List.forall₂_same]
    exact h
  induction e with
  | column name type => exact .step (.columnType name type .null)
  | literal value =>
      cases value with
      | int32 n => exact .step (.integer n)
      | _ => exact .refl _
  | methodCall t m r as _ _ => exact .refl _
  | function name as has => exact .function name (hlist has)
  | binary operator l r hl hr => exact .binary operator hl hr
  | cast target storeType x hx =>
      cases storeType with
      | none => exact .refl _
      | some descriptor =>
          exact (hx.plug (.cast target (some descriptor) .hole)).trans
            (.step (.castTarget target descriptor.dataType descriptor x.canonical))
  | index a is origin ha his =>
      cases origin with
      | zero => exact .refl _
      | one => exact (Alike.index ha (hlist his)).trans (alike_subscripted _ _)

theorem alike_of_canonical_eq {e e' : Expr} (h : e.canonical = e'.canonical) : Alike e e' := by
  have he := e.alike_canonical
  rw [h] at he
  exact he.trans e'.alike_canonical.symm

end Expr

end SqlLowering
