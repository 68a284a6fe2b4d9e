import SqlLowering.Proofs.Roots

/-!
# Rendered SQL is unambiguous

Two readable expressions have the same SQL only if they are alike. The reason is that no text begins
with two expressions: what the text of one goes on with behind it is never part of another. Behind
an expression comes nothing, a space, a closing parenthesis, a comma or a closing bracket
(`Expr.Ends`), and behind a root an opening bracket as well (`Expr.EndsRoot`). None of these belongs
to a word or a number, none is a quote, and an opening parenthesis is not among them, so that a
function is told from a column. A cast is told from a function called `CAST` behind the operand.

* `Expr.Reads`, `Expr.ReadsAsRoot` : a text that begins with the expression, or with the root, and
  goes on in this way begins with no other, up to the canonical form;
* `Expr.reads_argumentChars`, `Expr.reads_subscriptChars` : the same for lists of expressions;
* a lemma `readsAsRoot_…` for each kind of root, given that its operands can be read, and from them,
  by induction over the expression, `Expr.reads_parts`.
-/

namespace SqlLowering

open BundledModule (registry)
open Text

namespace Expr

/-! ## Reading -/

/-- What may come behind an expression: nothing, or the end of the place it stands in. -/
def Ends (cs : List Char) : Prop :=
  ∀ c ∈ cs.head?, c ∈ [' ', ')', ',', ']']

/-- What may come behind a root: a subscript as well. -/
def EndsRoot (cs : List Char) : Prop :=
  ∀ c ∈ cs.head?, c ∈ ['[', ' ', ')', ',', ']']

theorem ends_cons {c : Char} {cs : List Char} (h : c ∈ [' ', ')', ',', ']']) : Ends (c :: cs) := by
  intro x hx
  obtain rfl := Option.some.inj hx
  exact h

theorem Ends.endsRoot {cs : List Char} (h : Ends cs) : EndsRoot cs :=
  fun c hc => List.mem_cons_of_mem _ (h c hc)

theorem Ends.endsRoot_subscriptChars {cs : List Char} (h : Ends cs) (is : List Expr) :
    EndsRoot (subscriptChars is ++ cs) := by
  cases is with
  | nil => exact h.endsRoot
  | cons i is =>
      intro c hc
      obtain rfl := Option.some.inj hc
      exact List.mem_cons_self ..

theorem EndsRoot.eq_false {cs : List Char} (h : EndsRoot cs) {p : Char → Bool}
    (hp : (['[', ' ', ')', ',', ']'].all fun c => !p c) = true) :
    ∀ c ∈ cs.head?, p c = false := by
  intro c hc
  simpa using List.all_eq_true.1 hp c (h c hc)

theorem EndsRoot.isWordChar {cs : List Char} (h : EndsRoot cs) :
    ∀ c ∈ cs.head?, isWordChar c = false :=
  h.eq_false rfl

theorem EndsRoot.isNumberChar {cs : List Char} (h : EndsRoot cs) :
    ∀ c ∈ cs.head?, isNumberChar c = false :=
  h.eq_false rfl

theorem EndsRoot.head?_ne {cs : List Char} (h : EndsRoot cs) {x : Char}
    (hx : x ∉ ['[', ' ', ')', ',', ']']) : cs.head? ≠ some x :=
  fun hc => hx (h x hc)

/-- A text that begins with the expression begins with no other, up to the canonical form. -/
def Reads (e : Expr) : Prop :=
  ∀ ⦃e' : Expr⦄ ⦃cs cs' : List Char⦄, e'.Readable → Ends cs → Ends cs' →
    e.chars ++ cs = e'.chars ++ cs' → e.canonical = e'.canonical ∧ cs = cs'

/-- A text that begins with the root begins with no other. -/
def ReadsAsRoot (e : Expr) : Prop :=
  ∀ ⦃lead : Lead⦄ ⦃e' : Expr⦄ ⦃cs cs' : List Char⦄, Root lead e' → e'.Readable → EndsRoot cs →
    EndsRoot cs' → e.chars ++ cs = e'.chars ++ cs' → e.canonical = e'.canonical ∧ cs = cs'

/-! ## Arguments and subscripts -/

theorem ends_moreChars (es : List Expr) (cs : List Char) : Ends (moreChars es ++ ')' :: cs) := by
  cases es with
  | nil => exact ends_cons (by decide)
  | cons e es => exact ends_cons (by decide)

theorem reads_moreChars {es es' : List Expr} {cs cs' : List Char} (h : ∀ x ∈ es, x.Reads)
    (h' : ∀ x ∈ es', x.Readable) (heq : moreChars es ++ ')' :: cs = moreChars es' ++ ')' :: cs') :
    es.map canonical = es'.map canonical ∧ cs = cs' := by
  induction es generalizing es' with
  | nil =>
      cases es' with
      | nil => exact ⟨rfl, (List.cons.inj heq).2⟩
      | cons e' es' => simp [moreChars] at heq
  | cons e es ih =>
      cases es' with
      | nil => simp [moreChars] at heq
      | cons e' es' =>
          rw [List.forall_mem_cons] at h h'
          have hnext : e.chars ++ (moreChars es ++ ')' :: cs) =
              e'.chars ++ (moreChars es' ++ ')' :: cs') := by
            simpa [moreChars] using heq
          obtain ⟨hcanonical, hmore⟩ :=
            h.1 h'.1 (ends_moreChars es cs) (ends_moreChars es' cs') hnext
          obtain ⟨hrest, hcs⟩ := ih h.2 h'.2 hmore
          exact ⟨by rw [List.map_cons, List.map_cons, hcanonical, hrest], hcs⟩

theorem reads_argumentChars {as as' : List Expr} {cs cs' : List Char} (h : ∀ x ∈ as, x.Reads)
    (h' : ∀ x ∈ as', x.Readable) (hreadable : ∀ x ∈ as, x.Readable)
    (heq : argumentChars as ++ ')' :: cs = argumentChars as' ++ ')' :: cs') :
    as.map canonical = as'.map canonical ∧ cs = cs' := by
  cases as with
  | nil =>
      cases as' with
      | nil => exact ⟨rfl, (List.cons.inj heq).2⟩
      | cons e' es' =>
          rw [argumentChars, argumentChars, List.append_assoc] at heq
          exact absurd heq.symm ((h' e' (List.mem_cons_self ..)).ne_closing _ _)
  | cons e es =>
      cases as' with
      | nil =>
          rw [argumentChars, argumentChars, List.append_assoc] at heq
          exact absurd heq ((hreadable e (List.mem_cons_self ..)).ne_closing _ _)
      | cons e' es' =>
          rw [List.forall_mem_cons] at h h'
          rw [argumentChars, argumentChars, List.append_assoc, List.append_assoc] at heq
          obtain ⟨hcanonical, hmore⟩ :=
            h.1 h'.1 (ends_moreChars es cs) (ends_moreChars es' cs') heq
          obtain ⟨hrest, hcs⟩ := reads_moreChars h.2 h'.2 hmore
          exact ⟨by rw [List.map_cons, List.map_cons, hcanonical, hrest], hcs⟩

theorem reads_subscriptChars {is is' : List Expr} {cs cs' : List Char} (h : ∀ x ∈ is, x.Reads)
    (h' : ∀ x ∈ is', x.Readable) (hcs : Ends cs) (hcs' : Ends cs')
    (heq : subscriptChars is ++ cs = subscriptChars is' ++ cs') :
    is.map canonical = is'.map canonical ∧ cs = cs' := by
  -- a subscript opens with a bracket, and nothing that ends an expression does
  have hopening : ∀ {cs : List Char} {e : Expr} {es : List Expr} {more : List Char}, Ends cs →
      cs ≠ subscriptChars (e :: es) ++ more := by
    intro cs e es more hcs heq
    have hbracket : '[' ∈ [' ', ')', ',', ']'] := by
      apply hcs
      rw [heq]
      rfl
    exact absurd hbracket (by decide)
  induction is generalizing is' with
  | nil =>
      cases is' with
      | nil => exact ⟨rfl, heq⟩
      | cons i' is' => exact absurd heq (hopening hcs)
  | cons i is ih =>
      cases is' with
      | nil => exact absurd heq.symm (hopening hcs')
      | cons i' is' =>
          rw [List.forall_mem_cons] at h h'
          have hnext : i.chars ++ ']' :: (subscriptChars is ++ cs) =
              i'.chars ++ ']' :: (subscriptChars is' ++ cs') := by
            simpa [subscriptChars] using heq
          obtain ⟨hcanonical, hmore⟩ :=
            h.1 h'.1 (ends_cons (by decide)) (ends_cons (by decide)) hnext
          obtain ⟨hrest, hcs⟩ := ih h.2 h'.2 (List.cons.inj hmore).2
          exact ⟨by rw [List.map_cons, List.map_cons, hcanonical, hrest], hcs⟩

/-! ## Reading a root -/

section Roots

variable {lead : Lead} {e e' : Expr} {cs cs' : List Char}

/-- The constant or the column that a word stands for. -/
def ofWord (w : String) : Expr :=
  if w = "NULL" then literal .null
  else if w = "TRUE" then literal (.boolean true)
  else if w = "FALSE" then literal (.boolean false)
  else column w .null

theorem canonical_of_word? {w : String} (hw : e.word? = some w) (h : e.Legible) :
    e.canonical = ofWord w := by
  unfold word? at hw
  split at hw <;> cases hw
  · obtain ⟨-, hname⟩ := h
    simp only [List.mem_cons, List.not_mem_nil, or_false, not_or] at hname
    rw [ofWord, if_neg hname.1, if_neg hname.2.1, if_neg hname.2.2, canonical]
  all_goals rfl

theorem canonical_of_integer? {n : Int64} (h : e.integer? = some n) :
    e.canonical = literal (.int64 n) := by
  obtain ⟨value, hvalue, hn⟩ := Option.bind_eq_some_iff.1 h
  obtain rfl := eq_literal_of_constant? hvalue
  cases value with
  | int32 m => rw [← Option.some.inj hn]; rfl
  | int64 m => rw [← Option.some.inj hn]; rfl
  | _ => cases hn

theorem isWordChar_opening (cs : List Char) : ∀ c ∈ ('(' :: cs).head?, isWordChar c = false := by
  intro c hc
  obtain rfl := Option.some.inj hc
  decide

theorem readsAsRoot_word {w : String} (hw : e.word? = some w) (hid : isIdentifier w = true)
    (h : e.Legible) : e.ReadsAsRoot := by
  intro lead e' cs cs' hroot' he' hcs hcs' heq
  obtain rfl := (Root.word hw hid).lead_eq hroot' heq
  rw [chars_of_word? hw] at heq
  cases hroot' with
  | word hw' hid' =>
      rw [chars_of_word? hw'] at heq
      obtain ⟨rfl, hrest⟩ := word_append_inj hid hid' hcs.isWordChar hcs'.isWordChar heq
      have hcanonical := canonical_of_word? hw h
      exact ⟨hcanonical.trans (canonical_of_word? hw' (he' _ .root).2).symm, hrest⟩
  | function args hid' =>
      rw [function_append] at heq
      obtain ⟨-, rfl⟩ := word_append_inj hid hid' hcs.isWordChar (isWordChar_opening _) heq
      exact absurd rfl (hcs.head?_ne (by decide))
  | cast target x hd =>
      rw [cast_append] at heq
      obtain ⟨-, rfl⟩ := word_append_inj hid (by decide) hcs.isWordChar (isWordChar_opening _) heq
      exact absurd rfl (hcs.head?_ne (by decide))

theorem readsAsRoot_integer {n : Int64} (hn : e.integer? = some n) : e.ReadsAsRoot := by
  intro lead e' cs cs' hroot' _ hcs hcs' heq
  obtain rfl := (Root.integer hn).lead_eq hroot' heq
  cases hroot' with
  | integer hn' =>
      rw [chars_of_integer? hn, chars_of_integer? hn'] at heq
      obtain ⟨hnumber, hrest⟩ := intText_append_inj hcs.isNumberChar hcs'.isNumberChar heq
      obtain rfl := Int64.toInt_inj.1 hnumber
      exact ⟨(canonical_of_integer? hn).trans (canonical_of_integer? hn').symm, hrest⟩

theorem readsAsRoot_text (s : String) : (literal (.text s)).ReadsAsRoot := by
  intro lead e' cs cs' hroot' _ hcs hcs' heq
  obtain rfl := (Root.text s).lead_eq hroot' heq
  cases hroot' with
  | text s' =>
      obtain ⟨rfl, hrest⟩ := quoted_append_inj (hcs.head?_ne (by decide))
        (hcs'.head?_ne (by decide)) heq
      exact ⟨rfl, hrest⟩

theorem readsAsRoot_binary {operator : String} {l r : Expr} (ho : ' ' ∉ operator.toList)
    (hl : l.Reads) (hr : r.Reads) : (binary operator l r).ReadsAsRoot := by
  intro lead e' cs cs' hroot' he' hcs hcs' heq
  obtain rfl := (Root.binary l r ho).lead_eq hroot' heq
  cases hroot' with
  | binary l' r' ho' =>
      obtain ⟨-, hl', hr'⟩ := everywhere_binary.1 he'
      rw [binary_append, binary_append, List.cons.injEq] at heq
      obtain ⟨hleft, hspace⟩ := hl hl' (ends_cons (by decide)) (ends_cons (by decide)) heq.2
      obtain ⟨rfl, hrest⟩ := operator_append_inj ho ho' (List.cons.inj hspace).2
      obtain ⟨hright, hclosing⟩ := hr hr' (ends_cons (by decide)) (ends_cons (by decide)) hrest
      exact ⟨by rw [canonical, canonical, hleft, hright], (List.cons.inj hclosing).2⟩

/-- The arguments of a function do not look like the operand of a cast. -/
theorem argumentChars_ne_cast {as : List Expr} {x : Expr} {more : List Char}
    (hx : x.Readable) (hreads : ∀ a ∈ as, ∀ ⦃cs cs' : List Char⦄, Ends cs → Ends cs' →
      a.chars ++ cs = x.chars ++ cs' → cs = cs') :
    argumentChars as ++ ')' :: cs ≠ x.chars ++ ' ' :: more := by
  intro heq
  cases as with
  | nil => exact hx.ne_closing _ _ heq.symm
  | cons a as =>
      rw [argumentChars, List.append_assoc] at heq
      have hrest := hreads a (List.mem_cons_self ..) (ends_moreChars as cs)
        (ends_cons (by decide)) heq
      cases as with
      | nil => simp [moreChars] at hrest
      | cons a' as => simp [moreChars] at hrest

theorem readsAsRoot_function {name : String} {as : List Expr} (hid : isIdentifier name = true)
    (has : ∀ x ∈ as, x.Reads) (hreadable : ∀ x ∈ as, x.Readable) :
    (function name as).ReadsAsRoot := by
  intro lead e' cs cs' hroot' he' hcs hcs' heq
  obtain rfl := (Root.function as hid).lead_eq hroot' heq
  rw [function_append] at heq
  cases hroot' with
  | word hw' hid' =>
      rw [chars_of_word? hw'] at heq
      obtain ⟨-, rfl⟩ := word_append_inj hid hid' (isWordChar_opening _) hcs'.isWordChar heq
      exact absurd rfl (hcs'.head?_ne (by decide))
  | @function name' as' hid' =>
      rw [function_append] at heq
      have has' : ∀ x ∈ as', x.Readable := (everywhere_iff.1 he').2
      obtain ⟨rfl, hargs⟩ :=
        word_append_inj hid hid' (isWordChar_opening _) (isWordChar_opening _) heq
      obtain ⟨hcanonical, hrest⟩ :=
        reads_argumentChars has has' hreadable (List.cons.inj hargs).2
      exact ⟨by rw [canonical, canonical, canonicalList_eq, canonicalList_eq, hcanonical], hrest⟩
  | cast target x hd =>
      have hx := (everywhere_iff.1 he').2 x (List.mem_singleton_self x)
      rw [cast_append] at heq
      obtain ⟨-, hargs⟩ :=
        word_append_inj hid (by decide) (isWordChar_opening _) (isWordChar_opening _) heq
      exact absurd (List.cons.inj hargs).2 (argumentChars_ne_cast hx
        fun a ha cs cs' hcs hcs' h => (has a ha hx hcs hcs' h).2)

theorem readsAsRoot_cast {target : DataType} {d : TypeDescriptor} {x : Expr}
    (hd : d.dataType.storeType? = some d) (hx : x.Reads) (hreadable : x.Readable) :
    (cast target (some d) x).ReadsAsRoot := by
  intro lead e' cs cs' hroot' he' hcs hcs' heq
  obtain rfl := (Root.cast target x hd).lead_eq hroot' heq
  rw [cast_append] at heq
  cases hroot' with
  | word hw' hid' =>
      rw [chars_of_word? hw'] at heq
      obtain ⟨-, rfl⟩ := word_append_inj (by decide) hid' (isWordChar_opening _) hcs'.isWordChar heq
      exact absurd rfl (hcs'.head?_ne (by decide))
  | @function name' as' hid' =>
      rw [function_append] at heq
      obtain ⟨-, hargs⟩ :=
        word_append_inj (by decide) hid' (isWordChar_opening _) (isWordChar_opening _) heq
      have has' := (everywhere_iff.1 he').2
      exact absurd (List.cons.inj hargs).2.symm (argumentChars_ne_cast hreadable
        fun a ha cs cs' hcs hcs' h => (hx (has' a ha) hcs' hcs h.symm).2.symm)
  | @cast target' d' x' hd' =>
      have hx' := (everywhere_iff.1 he').2 x' (List.mem_singleton_self x')
      rw [cast_append, List.append_cancel_left_eq, List.cons.injEq] at heq
      obtain ⟨hcanonical, hstore⟩ :=
        hx hx' (ends_cons (by decide)) (ends_cons (by decide)) heq.2
      simp only [List.cons.injEq, true_and] at hstore
      obtain ⟨rfl, hrest⟩ := storeType_append_inj hd hd' hstore
      exact ⟨by rw [canonical, canonical, hcanonical], hrest⟩

end Roots

/-! ## Reading an expression -/

/-- A root and its subscripts are read one after the other. -/
theorem reads_of_root {e : Expr} (h : e.Readable) (hroot : e.root.ReadsAsRoot)
    (hsubscripts : ∀ x ∈ e.subscripts, x.Reads) : e.Reads := by
  intro e' cs cs' he' hcs hcs' heq
  obtain ⟨lead, hlead⟩ := exists_root he'
  obtain ⟨hroot', hsubscripts'⟩ := everywhere_root he'
  rw [chars_eq e, chars_eq e', List.append_assoc, List.append_assoc] at heq
  obtain ⟨hcanonical, hrest⟩ := hroot hlead hroot' (hcs.endsRoot_subscriptChars _)
    (hcs'.endsRoot_subscriptChars _) heq
  obtain ⟨hlist, hrest⟩ := reads_subscriptChars hsubscripts hsubscripts' hcs hcs' hrest
  exact ⟨by rw [canonical_eq h, canonical_eq he', hcanonical, hlist], hrest⟩

theorem reads_parts {e : Expr} (h : e.Readable) :
    e.root.ReadsAsRoot ∧ ∀ x ∈ e.subscripts, x.Reads := by
  induction e using induct_children with
  | h e ih =>
      obtain ⟨⟨hnative, hlegible⟩, hchildren⟩ := everywhere_iff.1 h
      have hreads : ∀ x ∈ e.children, x.Reads := fun x hx =>
        reads_of_root (hchildren x hx) (ih x hx (hchildren x hx)).1 (ih x hx (hchildren x hx)).2
      cases e with
      | column name type =>
          exact ⟨readsAsRoot_word rfl hlegible.1 hlegible, fun x hx => by cases hx⟩
      | literal value =>
          refine ⟨?_, fun x hx => by cases hx⟩
          cases value with
          | null => exact readsAsRoot_word rfl (by decide) hlegible
          | boolean b => cases b <;> exact readsAsRoot_word rfl (by decide) hlegible
          | int32 n => exact readsAsRoot_integer rfl
          | int64 n => exact readsAsRoot_integer rfl
          | float64 x => exact hlegible.elim
          | text s => exact readsAsRoot_text s
      | methodCall t m r as => exact hnative.elim
      | function name as =>
          exact ⟨readsAsRoot_function hlegible hreads hchildren, fun x hx => by cases hx⟩
      | binary operator l r =>
          refine ⟨readsAsRoot_binary hlegible ?_ ?_, fun x hx => by cases hx⟩
          · exact hreads l (List.mem_cons_self ..)
          · exact hreads r (List.mem_cons_of_mem _ (List.mem_singleton_self r))
      | cast target storeType x =>
          have hx := List.mem_singleton_self x
          cases storeType with
          | none => exact hnative.elim
          | some descriptor =>
              exact ⟨readsAsRoot_cast hnative (hreads x hx) (hchildren x hx),
                fun y hy => by cases hy⟩
      | index a is origin =>
          rw [children] at hreads
          obtain ⟨hroot, hsubscripts⟩ :=
            ih a (List.mem_cons_self ..) (hchildren a (List.mem_cons_self ..))
          refine ⟨hroot, fun x hx => ?_⟩
          rw [subscripts, List.mem_append] at hx
          exact hx.elim (hsubscripts x) fun hx => hreads x (List.mem_cons_of_mem _ hx)

/-- **Expressions with the same text are alike**, if they can be read. -/
theorem alike_of_render_eq {e e' : Expr} (h : e.Readable) (h' : e'.Readable)
    (heq : e.render = e'.render) : Alike e e' := by
  have hends : Ends [] := fun c hc => by cases hc
  obtain ⟨hroot, hsubscripts⟩ := reads_parts h
  have hreads := reads_of_root h hroot hsubscripts h' hends hends
    (congrArg (fun s => String.toList s ++ []) heq)
  exact alike_of_canonical_eq hreads.1

end Expr

/-! ## Sessions -/

/-- A text of limited length, with an access for each subscript that counts from zero. -/
def Expr.passage : Expr :=
  .cast ⟨.text, some 20⟩ none (.function "concat" [
    .methodCall .dbFunctions "Unaccent" none [
      .index (.index (.column "names" .collection) [.literal (.int32 0)] .zero)
        [.column "i" .int32] .zero],
    .literal (.text "'a"), .literal (.int32 7)])

/-- The same in native form, with one access for both subscripts, and with a length by default. -/
def Expr.nativePassage : Expr :=
  .cast ⟨.text, none⟩ none (.function "concat" [
    .function "unaccent" [
      .index (.column "names" .null)
        [.literal (.int64 1), .binary "+" (.column "i" .int64) (.literal (.int64 1))] .one],
    .literal (.text "'a"), .literal (.int64 7)])

namespace Session

variable {s s' : Session} {d d' : Depot} {ms : List BundledModule} {e e' : Expr}
  {out out' : Compiled}

/-- Whatever the rules are, a compiled expression is what was lowered, with its text. -/
theorem ofLowered_of_compile (hout : (s.compile d e).1 = .ok out) :
    Compiled.ofLowered s.config out.expr = .ok out ∧ out.sql = out.expr.render := by
  change ((SqlLowering.compile (d.get s.container).registry s.config e).run _).1 = .ok out at hout
  rw [SqlLowering.compile, Lowering.run_bind] at hout
  split at hout
  · rename_i lowered source' hlowered
    change Compiled.ofLowered s.config lowered = .ok out at hout
    obtain ⟨-, rfl⟩ := Compiled.ofLowered_eq_ok_iff.1 hout
    exact ⟨hout, rfl⟩
  · cases hout

theorem everywhere_native (hstrict : s.config.strictTranslation = true)
    (hout : (s.compile d e).1 = .ok out) (hstandard : out.expr.Everywhere Expr.Standard) :
    out.expr.Everywhere Expr.Native := by
  obtain ⟨hcalls, -⟩ := Compiled.ofLowered_eq_ok_iff.1 (ofLowered_of_compile hout).1
  intro x hx
  cases x with
  | methodCall t m r as =>
      have hcall : (MethodCall.mk t m r as).toExpr.NodeOf out.expr := hx
      have hmem := hcall.mem_methodCalls
      rw [hcalls hstrict] at hmem
      cases hmem
  | _ => exact hstandard _ hx

/-- What compilation leaves is standard, when the modules are bundled ones. -/
theorem everywhere_standard (hs : s.Uses d ms) (hout : (s.compile d e).1 = .ok out) :
    out.expr.Everywhere Expr.Standard := by
  rw [hs.compile_fst] at hout
  have hsettles := Expr.everywhere_lowered hs (compiled_eq_ok hout).1
  intro x hx
  cases x with
  | cast target storeType x =>
      have hcast := Expr.mappedCast_of_settles hs (hsettles _ hx)
      cases storeType with
      | none => exact absurd (hsettles _ hx).1 (by simp)
      | some descriptor => exact hcast
  | index a is origin => exact hsettles _ hx
  | _ => trivial

/-- **Rendered SQL is unambiguous.** Whatever the rules are, strictly compiled expressions that are
standard, without floating-point constants and with names that can be told apart, have the same SQL
exactly when they are alike. Those that bundled modules leave are standard. -/
theorem sql_eq_iff_alike (hstrict : s.config.strictTranslation = true)
    (hstrict' : s'.config.strictTranslation = true) (hout : (s.compile d e).1 = .ok out)
    (hout' : (s'.compile d' e').1 = .ok out') (h : out.expr.Everywhere Expr.Legible)
    (h' : out'.expr.Everywhere Expr.Legible) :
    (out.expr.Everywhere Expr.Standard → out'.expr.Everywhere Expr.Standard →
      (out.sql = out'.sql ↔ Alike out.expr out'.expr)) ∧
    ∀ ms ms' : List BundledModule, s.Uses d ms → s'.Uses d' ms' →
      (out.sql = out'.sql ↔ Alike out.expr out'.expr) := by
  have hstandard : out.expr.Everywhere Expr.Standard → out'.expr.Everywhere Expr.Standard →
      (out.sql = out'.sql ↔ Alike out.expr out'.expr) := by
    intro hout₁ hout₁'
    have hreadable : out.expr.Readable := fun x hx =>
      ⟨everywhere_native hstrict hout hout₁ x hx, h x hx⟩
    have hreadable' : out'.expr.Readable := fun x hx =>
      ⟨everywhere_native hstrict' hout' hout₁' x hx, h' x hx⟩
    rw [(ofLowered_of_compile hout).2, (ofLowered_of_compile hout').2]
    exact ⟨Expr.alike_of_render_eq hreadable hreadable', Alike.render_eq⟩
  exact ⟨hstandard, fun ms ms' hs hs' =>
    hstandard (everywhere_standard hs hout) (everywhere_standard hs' hout')⟩

/-- The two passages have the same SQL, for they differ in nothing that SQL shows. -/
theorem sql_eq_iff_alike_passages :
    ∃ out out' : Compiled,
      ((ofModules [.unaccent] ⟨"", true, none⟩).compile (.ofModules [.unaccent]) .passage).1 =
        .ok out ∧
      ((ofModules [] ⟨"", true, some 20⟩).compile (.ofModules []) .nativePassage).1 = .ok out' ∧
      out.expr.agrees out'.expr = false ∧
      out.sql = "CAST(concat(unaccent(names[1][(i + 1)]), \x27\x27\x27a\x27, 7) AS " ++
        "character varying(20))" ∧
      Alike out.expr out'.expr := by
  have hout : ((ofModules [.unaccent] ⟨"", true, none⟩).compile (.ofModules [.unaccent])
      .passage).1 = .ok ⟨_, _, _⟩ := rfl
  have hout' : ((ofModules [] ⟨"", true, some 20⟩).compile (.ofModules [])
      .nativePassage).1 = .ok ⟨_, _, _⟩ := rfl
  refine ⟨_, _, hout, hout', rfl, rfl, ?_⟩
  exact ((sql_eq_iff_alike rfl rfl hout hout' (by decide) (by decide)).2 _ _
    (ofModules_uses [.unaccent] _) (ofModules_uses [] _)).1 rfl

/-- The rule of a module of its own may leave an access that counts from zero, or a cast with any
descriptor, and neither is told apart from what the source could have meant. -/
theorem sql_eq_iff_alike_ownRule :
    let a : Expr := .column "a" .collection
    let access (origin : Origin) : Expr := .index a [.literal (.int32 1)] origin
    let named : Expr := .cast ⟨.text, none⟩ (some ⟨.bytea, "text", none⟩) a
    let rule : Rule := fun call =>
      .replaced (if call.method = "Second" then access .zero else named)
    let d : Depot := ⟨[(Container.empty.addModule ⟨"Own", "own", [rule]⟩).2]⟩
    let s : Session := ⟨⟨"", true, none⟩, [], ⟨0⟩, true⟩
    let clash (e e' : Expr) (sql : String) : Prop := ∃ out out' : Compiled,
      (s.compile d e).1 = .ok out ∧ (s.compile d e').1 = .ok out' ∧
        out.expr.Everywhere Expr.Legible ∧ out'.expr.Everywhere Expr.Legible ∧
        out.sql = sql ∧ out'.sql = sql ∧ ¬ Alike out.expr out'.expr
    clash (.methodCall .dbFunctions "Second" none []) (access .one) "a[1]" ∧
    clash (.methodCall .dbFunctions "Named" none []) (.cast ⟨.text, none⟩ none a)
      "CAST(a AS text)" := by
  intro a access named rule d s clash
  refine ⟨⟨_, _, rfl, rfl, by decide, by decide, rfl, rfl, fun halike => ?_⟩,
    ⟨_, _, rfl, rfl, by decide, by decide, rfl, rfl, fun halike => ?_⟩⟩
  · exact absurd (halike.everywhere_standard_iff.2 (by decide)) (by decide)
  · exact absurd (halike.everywhere_standard_iff.2 (by decide)) (by decide)

end Session

end SqlLowering
