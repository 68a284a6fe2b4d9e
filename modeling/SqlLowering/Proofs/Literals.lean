import SqlLowering.Expr.Render
import SqlLowering.Proofs.Leaves
import SqlLowering.Proofs.NormalForm
import SqlLowering.Proofs.Tokens

/-!
# Text literals in rendered SQL

A reader of SQL text finds the text literals in it from left to right. A literal starts at a quote
and ends at the first quote that no other follows, and two quotes inside it stand for one. In the
text of an expression the reader finds the texts of the expression, in order, and nothing else: no
text can end its literal early, whatever it consists of, and what stands between the literals has no
quote. That holds if the names in the expression have none, and the store types of its casts.

* `Text.literals` : the reader, which has no result for a text that ends inside of a literal;
* `Text.Scans` : what the reader finds in some text before it goes on, provided that no quote comes
  next. Texts that are put together scan one after the other (`Scans.append`), and a literal scans
  as its text (`scans_quoted`);
* `Expr.scans_render` : by induction over the expression, its text scans as its texts.
-/

namespace SqlLowering

open BundledModule (registry)

namespace Text

/-! ## The reader -/

mutual

/-- The literals in some text that starts outside of a literal. -/
def literalsOutside : List Char → Option (List String)
  | [] => some []
  | c :: cs => if c = '\x27' then literalsInside [] cs else literalsOutside cs

/-- The literals in some text that starts inside of one, of which a part has been read. -/
def literalsInside (read : List Char) : List Char → Option (List String)
  | [] => none
  | [c] => if c = '\x27' then some [String.ofList read] else none
  | c :: next :: cs =>
    if c = '\x27' then
      if next = '\x27' then literalsInside (read ++ ['\x27']) cs
      else (literalsOutside (next :: cs)).map fun texts => String.ofList read :: texts
    else literalsInside (read ++ [c]) (next :: cs)

end

/-- The contents of the text literals in an SQL text. There is no result if the text ends inside of
a literal. -/
def literals (s : String) : Option (List String) :=
  literalsOutside s.toList

theorem literalsOutside_append {cs : List Char} (h : '\x27' ∉ cs) (rest : List Char) :
    literalsOutside (cs ++ rest) = literalsOutside rest := by
  induction cs with
  | nil => rfl
  | cons c cs ih =>
      rw [List.mem_cons, not_or] at h
      rw [List.cons_append, literalsOutside, if_neg (Ne.symm h.1), ih h.2]

theorem literalsInside_of_ne {c : Char} (hc : c ≠ '\x27') (read : List Char) {cs : List Char}
    (hcs : cs ≠ []) : literalsInside read (c :: cs) = literalsInside (read ++ [c]) cs := by
  cases cs with
  | nil => exact absurd rfl hcs
  | cons next cs => rw [literalsInside, if_neg hc]

/-- **Doubled quotes are read as they were**, and the quote behind them ends the literal. -/
theorem literalsInside_doubleQuotes (read cs : List Char) {rest : List Char}
    (h : rest.head? ≠ some '\x27') :
    literalsInside read (doubleQuotes cs ++ '\x27' :: rest) =
      (literalsOutside rest).map fun texts => String.ofList (read ++ cs) :: texts := by
  induction cs generalizing read with
  | nil =>
      rw [doubleQuotes, List.nil_append, List.append_nil]
      cases rest with
      | nil => rfl
      | cons next rest =>
          have hnext : next ≠ '\x27' := fun hnext => h (hnext ▸ rfl)
          rw [literalsInside, if_pos rfl, if_neg hnext]
  | cons c cs ih =>
      rw [doubleQuotes]
      by_cases hc : c = '\x27'
      · have hrest := ih (read ++ ['\x27'])
        rw [List.append_assoc, List.singleton_append] at hrest
        rw [if_pos hc, hc, List.cons_append, List.cons_append, literalsInside, if_pos rfl,
          if_pos rfl, hrest]
      · have hrest := ih (read ++ [c])
        rw [List.append_assoc, List.singleton_append] at hrest
        rw [if_neg hc, List.cons_append, literalsInside_of_ne hc read (by simp), hrest]

/-! ## Text without quotes -/

def QuoteFree (s : String) : Prop :=
  '\x27' ∉ s.toList

instance (s : String) : Decidable (QuoteFree s) :=
  inferInstanceAs (Decidable ('\x27' ∉ s.toList))

theorem QuoteFree.append {s t : String} (hs : QuoteFree s) (ht : QuoteFree t) :
    QuoteFree (s ++ t) := by
  unfold QuoteFree at *
  rw [String.toList_append, List.mem_append]
  exact not_or_intro hs ht

theorem quoteFree_ofList {cs : List Char} (h : '\x27' ∉ cs) : QuoteFree (String.ofList cs) := by
  unfold QuoteFree
  rwa [String.toList_ofList]

theorem quoteFree_natText (n : Nat) : QuoteFree (natText n) :=
  fun h => absurd (isDigit_of_mem_natText h) (by decide)

theorem quoteFree_intText (n : Int) : QuoteFree (intText n) :=
  fun h => absurd (isNumberChar_of_mem_intText h) (by decide)

end Text

open Text

namespace Binary64

theorem quote_notMem_toDigits (n : Nat) : '\x27' ∉ Nat.toDigits 10 n := by
  intro h
  exact absurd (Nat.isDigit_of_mem_toDigits (by decide) (by decide) h) (by decide)

theorem quoteFree_positional (d : Decimal) {wholeSuffix : String} (h : QuoteFree wholeSuffix) :
    QuoteFree (d.positional wholeSuffix) := by
  have hdigits := quote_notMem_toDigits d.digits
  have hzeros : ∀ k, '\x27' ∉ List.replicate k '0' := fun k hmem =>
    absurd (List.eq_of_mem_replicate hmem) (by decide)
  unfold Decimal.positional
  dsimp only
  split
  · rename_i k _
    refine .append (quoteFree_ofList fun hmem => ?_) h
    rw [List.mem_append] at hmem
    exact hmem.elim hdigits (hzeros k)
  · split
    · refine .append (by decide) (quoteFree_ofList fun hmem => ?_)
      rw [List.mem_append] at hmem
      exact hmem.elim (hzeros _) hdigits
    · refine .append (.append (quoteFree_ofList fun hmem => ?_) (by decide))
        (quoteFree_ofList fun hmem => ?_)
      · exact hdigits (List.mem_of_mem_take hmem)
      · exact hdigits (List.mem_of_mem_drop hmem)

theorem quoteFree_plainText (x : Binary64) : QuoteFree x.plainText := by
  have hsign : QuoteFree x.signText := by
    unfold signText
    split <;> decide
  unfold plainText
  split
  · decide
  · split
    · exact hsign.append (by decide)
    · split
      · exact hsign.append (by decide)
      · exact hsign.append (quoteFree_positional _ (by decide))

end Binary64

theorem ValueType.quoteFree_title (t : ValueType) : QuoteFree t.title := by
  cases t <;> decide

theorem DataType.quoteFree_title (t : DataType) : QuoteFree t.title := by
  unfold title
  split
  · exact t.base.quoteFree_title
  · exact ((t.base.quoteFree_title.append (by decide)).append (quoteFree_natText _)).append
      (by decide)

theorem ValueType.quoteFree_fixedStoreType {base : ValueType} {name : String}
    (h : base.fixedStoreType? = some name) : QuoteFree name := by
  cases base <;> cases h <;> decide

theorem DataType.quoteFree_storeType {t : DataType} {descriptor : TypeDescriptor}
    (h : t.storeType? = some descriptor) : QuoteFree descriptor.storeType := by
  rcases storeType?_eq_some h with ⟨base, name, hname, rfl⟩ | rfl | ⟨n, rfl⟩
  · exact ValueType.quoteFree_fixedStoreType hname
  · decide
  · exact QuoteFree.append (.append (by decide) (quoteFree_natText _)) (by decide)

/-! ## Scanning -/

namespace Text

/-- The reader finds these texts in some text and is outside of a literal afterwards, provided that
no quote comes next. -/
def Scans (s : String) (texts : List String) : Prop :=
  ∀ rest : List Char, rest.head? ≠ some '\x27' →
    literalsOutside (s.toList ++ rest) = (literalsOutside rest).map fun more => texts ++ more

namespace Scans

variable {s t : String} {texts more : List String}

theorem literals_eq (h : Scans s texts) : literals s = some texts := by
  have hall := h [] (by simp)
  rw [List.append_nil] at hall
  rw [literals, hall]
  simp [literalsOutside]

/-- There is nothing to be found in text without quotes. -/
theorem quoteFree_append (hs : QuoteFree s) (ht : Scans t texts) : Scans (s ++ t) texts := by
  intro rest hrest
  rw [String.toList_append, List.append_assoc, literalsOutside_append hs, ht rest hrest]

theorem empty : Scans "" [] := by
  intro rest _
  simp

theorem of_quoteFree (h : QuoteFree s) : Scans s [] := by
  have hs := quoteFree_append h empty
  rwa [String.append_empty] at hs

/-- What does not begin with a quote does not change what stands before it. -/
theorem append (hs : Scans s texts) (ht : Scans t more) (hhead : t.toList.head? ≠ some '\x27') :
    Scans (s ++ t) (texts ++ more) := by
  intro rest hrest
  have hnext : (t.toList ++ rest).head? ≠ some '\x27' := by
    cases htext : t.toList with
    | nil => exact hrest
    | cons c cs =>
        rw [htext] at hhead
        exact hhead
  rw [String.toList_append, List.append_assoc, hs _ hnext, ht rest hrest, Option.map_map]
  congr 1
  funext rest
  exact (List.append_assoc ..).symm

theorem append_between {separator : String} (hs : Scans s texts) (hseparator : QuoteFree separator)
    (hne : separator.toList ≠ []) (ht : Scans t more) :
    Scans (s ++ (separator ++ t)) (texts ++ more) := by
  refine hs.append (quoteFree_append hseparator ht) ?_
  obtain ⟨c, cs, hcs⟩ := List.exists_cons_of_ne_nil hne
  rw [String.toList_append, hcs]
  intro hc
  apply hseparator
  rw [hcs, ← Option.some.inj hc]
  exact List.mem_cons_self ..

theorem append_behind {closing : String} (hs : Scans s texts) (hclosing : QuoteFree closing)
    (hne : closing.toList ≠ []) : Scans (s ++ closing) texts := by
  have h := hs.append_between hclosing hne empty
  rwa [String.append_empty, List.append_nil] at h

end Scans

/-- **A literal scans as its text.** -/
theorem scans_quoted (s : String) : Scans (quoted s) [s] := by
  intro rest hrest
  rw [toList_quoted_append, literalsOutside, if_pos rfl,
    literalsInside_doubleQuotes [] s.toList hrest, List.nil_append, String.ofList_toList]
  rfl

end Text

def Leaf.text? : Leaf → Option String
  | constant (.text s) => some s
  | _ => none

def Expr.texts (e : Expr) : List String :=
  e.leaves.filterMap Leaf.text?

theorem Scalar.scans_render (value : Scalar) :
    Scans value.render (Leaf.constant value).text?.toList := by
  cases value with
  | null => exact .of_quoteFree (by decide)
  | boolean b => cases b <;> exact .of_quoteFree (by decide)
  | int32 n => exact .of_quoteFree (quoteFree_intText n.toInt)
  | int64 n => exact .of_quoteFree (quoteFree_intText n.toInt)
  | float64 x => exact .of_quoteFree x.quoteFree_plainText
  | text s => exact scans_quoted s

/-! ## The text of an expression -/

namespace Expr

/-- The name of a column, a function, an operator or a method has no quote in it. -/
def QuoteFreeName : Expr → Prop
  | column name _ => QuoteFree name
  | methodCall _ method _ _ => QuoteFree method
  | function name _ => QuoteFree name
  | binary operator _ _ => QuoteFree operator
  | _ => True

instance : DecidablePred QuoteFreeName
  | column name _ => inferInstanceAs (Decidable (QuoteFree name))
  | methodCall _ method _ _ => inferInstanceAs (Decidable (QuoteFree method))
  | function name _ => inferInstanceAs (Decidable (QuoteFree name))
  | binary operator _ _ => inferInstanceAs (Decidable (QuoteFree operator))
  | literal _ | cast _ _ _ | index _ _ _ => isTrue trivial

/-- The store type of a cast, once there is one, has no quote in it. -/
def QuoteFreeStoreType : Expr → Prop
  | cast _ (some descriptor) _ => QuoteFree descriptor.storeType
  | _ => True

instance : DecidablePred QuoteFreeStoreType
  | cast _ (some descriptor) _ => inferInstanceAs (Decidable (QuoteFree descriptor.storeType))
  | cast _ none _ => isTrue trivial
  | column _ _ | literal _ | methodCall _ _ _ _ | function _ _ | binary _ _ _ | index _ _ _ =>
    isTrue trivial

theorem MappedCast.quoteFreeStoreType {e : Expr} (h : e.MappedCast) : e.QuoteFreeStoreType := by
  cases e with
  | cast target storeType x =>
      cases storeType with
      | none => trivial
      | some descriptor => exact DataType.quoteFree_storeType h
  | _ => trivial

theorem filterMap_text?_flatMap (es : List Expr) :
    (es.flatMap leaves).filterMap Leaf.text? = es.flatMap texts := by
  rw [List.filterMap_flatMap]
  rfl

theorem scans_joinWith {es : List Expr} (h : ∀ x ∈ es, Scans x.render x.texts) :
    Scans (joinWith ", " (renderList es)) (es.flatMap texts) := by
  induction es with
  | nil => exact .empty
  | cons e es ih =>
      rw [List.forall_mem_cons] at h
      have hes := ih h.2
      cases es with
      | nil =>
          rw [renderList, renderList, joinWith, List.flatMap_singleton]
          exact h.1
      | cons e' es =>
          rw [renderList] at hes
          rw [renderList, renderList, joinWith, List.flatMap_cons, String.append_assoc]
          exact h.1.append_between (by decide) (by decide) hes

theorem scans_renderSubscripts {es : List Expr} (h : ∀ x ∈ es, Scans x.render x.texts) :
    Scans (renderSubscripts es) (es.flatMap texts) ∧
      (renderSubscripts es).toList.head? ≠ some '\x27' := by
  induction es with
  | nil => exact ⟨.empty, by decide⟩
  | cons e es ih =>
      rw [List.forall_mem_cons] at h
      obtain ⟨hes, -⟩ := ih h.2
      rw [renderSubscripts, List.flatMap_cons, String.append_assoc, String.append_assoc]
      refine ⟨.quoteFree_append (by decide) (h.1.append_between (by decide) (by decide) hes), ?_⟩
      simp

theorem scans_renderReceiver (t : ValueType) {r : Option Expr}
    (h : ∀ x ∈ r, Scans x.render x.texts) :
    Scans (renderReceiver t r) (r.toList.flatMap texts) := by
  cases r with
  | none => exact .of_quoteFree t.quoteFree_title
  | some e =>
      rw [renderReceiver, Option.toList_some, List.flatMap_singleton]
      exact h e rfl

theorem scans_cast {x : Expr} {type : String} (hx : Scans x.render x.texts)
    (htype : QuoteFree type) : Scans ("CAST(" ++ x.render ++ " AS " ++ type ++ ")") x.texts := by
  have hclosing : QuoteFree (" AS " ++ (type ++ ")")) :=
    .append (by decide) (htype.append (by decide))
  simp only [String.append_assoc]
  exact .quoteFree_append (by decide) (hx.append_behind hclosing (by simp))

/-- **The text of an expression scans as its texts**, if the names in it have no quotes. -/
theorem scans_render {e : Expr} (hnames : e.Everywhere QuoteFreeName)
    (hcasts : e.Everywhere QuoteFreeStoreType) : Scans e.render e.texts := by
  induction e with
  | column name type => exact .of_quoteFree (hnames _ .root)
  | literal value =>
      have htexts : (literal value).texts = (Leaf.constant value).text?.toList := by
        cases value <;> rfl
      rw [htexts]
      exact value.scans_render
  | methodCall t m r as hr has =>
      obtain ⟨hm, hnames⟩ := everywhere_iff.1 hnames
      obtain ⟨-, hcasts⟩ := everywhere_iff.1 hcasts
      have hreceiver := scans_renderReceiver t fun x hx => hr x hx
        (hnames x (List.mem_append_left _ (Option.mem_toList.2 hx)))
        (hcasts x (List.mem_append_left _ (Option.mem_toList.2 hx)))
      have hargs := scans_joinWith fun x hx => has x hx
        (hnames x (List.mem_append_right _ hx)) (hcasts x (List.mem_append_right _ hx))
      rw [texts, leaves_methodCall, filterMap_text?_flatMap, List.flatMap_append, render]
      simp only [String.append_assoc]
      exact hreceiver.append_between (by decide) (by decide) (.quoteFree_append hm
        (.quoteFree_append (by decide) (hargs.append_behind (by decide) (by decide))))
  | function name as has =>
      obtain ⟨hname, hnames⟩ := everywhere_iff.1 hnames
      obtain ⟨-, hcasts⟩ := everywhere_iff.1 hcasts
      have hargs := scans_joinWith fun x hx => has x hx (hnames x hx) (hcasts x hx)
      rw [texts, leaves, leavesList_eq, filterMap_text?_flatMap, render]
      simp only [String.append_assoc]
      exact .quoteFree_append hname
        (.quoteFree_append (by decide) (hargs.append_behind (by decide) (by decide)))
  | binary operator l r hl hr =>
      obtain ⟨hoperator, hlnames, hrnames⟩ := everywhere_binary.1 hnames
      obtain ⟨-, hlcasts, hrcasts⟩ := everywhere_binary.1 hcasts
      have hright : Scans (r.render ++ ")") r.texts :=
        (hr hrnames hrcasts).append_behind (by decide) (by decide)
      rw [texts, leaves, List.filterMap_append, render]
      simp only [String.append_assoc]
      exact .quoteFree_append (by decide) ((hl hlnames hlcasts).append_between (by decide)
        (by decide) (.quoteFree_append hoperator (.quoteFree_append (by decide) hright)))
  | cast target storeType x hx =>
      obtain ⟨hstore, hcasts⟩ := everywhere_iff.1 hcasts
      have hoperand := hx ((everywhere_iff.1 hnames).2 x (List.mem_singleton_self x))
        (hcasts x (List.mem_singleton_self x))
      cases storeType with
      | none => exact scans_cast hoperand target.quoteFree_title
      | some descriptor =>
          exact scans_cast hoperand hstore
  | index a is origin ha his =>
      obtain ⟨-, hnames⟩ := everywhere_iff.1 hnames
      obtain ⟨-, hcasts⟩ := everywhere_iff.1 hcasts
      rw [children, List.forall_mem_cons] at hnames hcasts
      obtain ⟨hsubscripts, hhead⟩ := scans_renderSubscripts fun x hx =>
        his x hx (hnames.2 x hx) (hcasts.2 x hx)
      rw [texts, leaves, leavesList_eq, List.filterMap_append, filterMap_text?_flatMap, render]
      exact (ha hnames.1 hcasts.1).append hsubscripts hhead

/-! ## Compiled expressions -/

variable {ms : List BundledModule} {config : Config}

theorem texts_lowered {e e' : Expr} (h : e.lowered (registry ms) config = .ok e') :
    e'.texts = e.texts := by
  have htexts : ∀ ls : List Leaf, (ls.filter fun l => l.integer?.isNone).filterMap Leaf.text? =
      ls.filterMap Leaf.text? := by
    intro ls
    rw [List.filterMap_filter]
    congr 1
    funext l
    cases l with
    | column name type => rfl
    | constant value => cases value <;> rfl
  rw [texts, texts, ← htexts, filter_leaves_lowered h, htexts]

theorem quoteFreeName_shifts : HoldsOfShifts QuoteFreeName where
  literal _ := trivial
  sum _ _ := (by decide : QuoteFree "+")
  index _ _ := trivial

theorem quoteFree_symbols :
    ∀ m ∈ BundledModule.all, ∀ entry ∈ m.table, QuoteFree entry.2.symbol := by
  decide +kernel

theorem quoteFreeName_of_apply {form : NativeForm} {es : List Expr} {e : Expr}
    (h : form.apply es = .replaced e) (hsymbol : QuoteFree form.symbol) : e.QuoteFreeName := by
  rcases NativeForm.apply_eq_replaced h with ⟨_, rfl, rfl⟩ | ⟨_, _, _, rfl, _, rfl⟩ | ⟨_, rfl, rfl⟩
  · exact hsymbol
  · exact hsymbol
  · exact hsymbol

/-- **Names without quotes stay without quotes.** -/
theorem quoteFreeName_lowered {e e' : Expr} (h : e.lowered (registry ms) config = .ok e') :
    e.Everywhere QuoteFreeName → e'.Everywhere QuoteFreeName := by
  have hlist : ∀ {es es' : List Expr}, List.Forall₂ (fun x x' : Expr =>
      x.Everywhere QuoteFreeName → x'.Everywhere QuoteFreeName) es es' →
      (∀ x ∈ es, x.Everywhere QuoteFreeName) → ∀ x' ∈ es', x'.Everywhere QuoteFreeName :=
    fun h hes => forall_mem_of_forall₂
      (((List.forall₂_and_left _ _).2 ⟨hes, h⟩).imp fun _ _ hx => hx.2 hx.1)
  refine lowered_induction
    (P := fun e e' => e.Everywhere QuoteFreeName → e'.Everywhere QuoteFreeName)
    ?column ?literal ?kept ?translated ?function ?binary ?cast ?index h
  case column =>
    intro name type
    exact id
  case literal =>
    intro value
    exact id
  case kept =>
    intro t m r r' as as' hr has _ _ hnames
    obtain ⟨hm, hnames⟩ := everywhere_iff.1 hnames
    exact everywhere_iff.2 ⟨hm, hlist (forall₂_operands hr has) hnames⟩
  case translated =>
    intro t m r as operands form e hoperands _ hform happly hnames
    obtain ⟨m', _, entry, hentry, _, rfl⟩ := BundledModule.activeForm?_eq_some_iff.1 hform
    have hsymbol := quoteFree_symbols m' (BundledModule.mem_all m') entry hentry
    exact everywhere_of_apply quoteFreeName_shifts happly (quoteFreeName_of_apply happly hsymbol)
      (hlist hoperands (everywhere_iff.1 hnames).2)
  case function =>
    intro name as as' has hnames
    obtain ⟨hname, hnames⟩ := everywhere_iff.1 hnames
    exact everywhere_iff.2 ⟨hname, hlist has hnames⟩
  case binary =>
    intro operator l r l' r' hl hr hnames
    obtain ⟨hoperator, hlnames, hrnames⟩ := everywhere_binary.1 hnames
    exact everywhere_binary.2 ⟨hoperator, hl hlnames, hr hrnames⟩
  case cast =>
    intro target storeType x x' descriptor hx _ hnames
    obtain ⟨-, hnames⟩ := everywhere_iff.1 hnames
    exact everywhere_iff.2 ⟨trivial,
      List.forall_mem_singleton.2 (hx (hnames x (List.mem_singleton_self x)))⟩
  case index =>
    intro a a' is is' origin ha his _ hnames
    obtain ⟨-, hnames⟩ := everywhere_iff.1 hnames
    rw [children, List.forall_mem_cons] at hnames
    exact everywhere_indexFromOne quoteFreeName_shifts origin (ha hnames.1) (hlist his hnames.2)

end Expr

/-! ## Sessions -/

/-- Texts with quotes at both ends, of quotes only, and without anything, in all places. -/
def Expr.quotes : Expr :=
  .cast ⟨.text, none⟩ none (.function "concat" [
    .literal (.text ""),
    .binary "||" (.literal (.text "''")) (.literal (.text "'a'b'")),
    .index (.literal (.text "'")) [.literal (.text "''")] .zero,
    .methodCall .dbFunctions "Soundex" none [.literal (.text "'c")]])

namespace Session

/-- **No text escapes its literal.** In the text of an expression in which no column, function,
operator or method has a quote in its name, and no cast one in its store type, a reader finds its
texts as they are, in order, and nothing else; and in compiled SQL those of the source. The store
types that compilation gives to casts have no quotes. -/
theorem literals_render (e : Expr) :
    (e.Everywhere Expr.QuoteFreeName → e.Everywhere Expr.QuoteFreeStoreType →
      literals e.render = some e.texts) ∧
    ∀ (s : Session) (d : Depot) (ms : List BundledModule) (out : Compiled), s.Uses d ms →
      (s.compile d e).1 = .ok out →
      (out.expr.Everywhere Expr.QuoteFreeName → literals out.sql = some out.expr.texts) ∧
      (e.Everywhere Expr.QuoteFreeName → literals out.sql = some e.texts) := by
  refine ⟨fun hnames hcasts => (Expr.scans_render hnames hcasts).literals_eq, ?_⟩
  intro s d ms out hs hout
  rw [hs.compile_fst] at hout
  obtain ⟨hlowered, hsql, -⟩ := compiled_eq_ok hout
  have hcasts : out.expr.Everywhere Expr.QuoteFreeStoreType := fun x hx =>
    (Expr.mappedCast_of_settles hs (Expr.everywhere_lowered hs hlowered x hx)).quoteFreeStoreType
  have hliterals : out.expr.Everywhere Expr.QuoteFreeName →
      literals out.sql = some out.expr.texts := fun hnames => by
    rw [hsql]
    exact (Expr.scans_render hnames hcasts).literals_eq
  refine ⟨hliterals, fun hnames => ?_⟩
  rw [← Expr.texts_lowered hlowered]
  exact hliterals (Expr.quoteFreeName_lowered hlowered hnames)

theorem literals_render_quotes :
    literals Expr.quotes.render = some ["", "''", "'a'b'", "'", "''", "'c"] ∧
    ∃ out : Compiled, ((ofModules [.fuzzyMatch] ⟨"", true, some 20⟩).compile
        (.ofModules [.fuzzyMatch]) .quotes).1 = .ok out ∧
      literals out.sql = some ["", "''", "'a'b'", "'", "''", "'c"] := by
  refine ⟨(literals_render .quotes).1 (by decide) (by decide), _, rfl, ?_⟩
  exact ((literals_render .quotes).2 _ _ _ _
    (ofModules_uses [.fuzzyMatch] ⟨"", true, some 20⟩) rfl).2 (by decide)

/-- The store type of a cast stands in the text as it is, and a quote in it opens a literal. -/
theorem literals_render_storeType :
    let e : Expr := .cast ⟨.text, none⟩ (some ⟨.text, "o'clock", none⟩) (.column "at" .text)
    e.Everywhere Expr.QuoteFreeName ∧ e.texts = [] ∧
      e.render = "CAST(at AS o'clock)" ∧ literals e.render = none := by
  decide

end Session

end SqlLowering
