import SqlLowering.Proofs.Identified
import SqlLowering.Proofs.NormalForm
import SqlLowering.Proofs.Tokens

/-!
# Roots and subscripts

The text of an expression is that of its root, which is what is left without its subscripts, and
then those of the subscripts (`Expr.chars_eq`). Its canonical form is put together in the same way
(`Expr.canonical_eq`).

An expression is readable if it is one that strict translation with bundled modules may leave
(`Expr.Native`) and the names in it can be told apart from the rest (`Expr.Legible`). Its root is
then one of six kinds (`Expr.Root`): a word, which is a constant or a column, a function, a cast, an
integer, a text or an operation. What the text begins with tells these apart, up to the three that
begin with a word (`Expr.Root.lead_eq`).
-/

namespace SqlLowering

open Text

namespace Expr

/-! ## Expressions that can be read -/

/-- A node is no call, and an access or a cast only if it is standard. -/
def Native : Expr → Prop
  | methodCall _ _ _ _ => False
  | e => e.Standard

/-- The names at a node can be told apart from the rest: those of columns and functions are
identifiers, a column is not called like a constant, and an operator has no space in it. No number
is one of floating point. -/
def Legible : Expr → Prop
  | column name _ => isIdentifier name = true ∧ name ∉ ["NULL", "TRUE", "FALSE"]
  | literal (.float64 _) => False
  | function name _ => isIdentifier name = true
  | binary operator _ _ => ' ' ∉ operator.toList
  | _ => True

instance : DecidablePred Legible
  | column name _ =>
    inferInstanceAs (Decidable (isIdentifier name = true ∧ name ∉ ["NULL", "TRUE", "FALSE"]))
  | function name _ => inferInstanceAs (Decidable (isIdentifier name = true))
  | binary operator _ _ => inferInstanceAs (Decidable (' ' ∉ operator.toList))
  | literal (.float64 _) => isFalse id
  | literal .null | literal (.boolean _) | literal (.int32 _) | literal (.int64 _)
  | literal (.text _) => isTrue trivial
  | methodCall _ _ _ _ | cast _ _ _ | index _ _ _ => isTrue trivial

abbrev Readable (e : Expr) : Prop :=
  e.Everywhere fun x => x.Native ∧ x.Legible

/-! ## The text of an expression -/

def chars (e : Expr) : List Char :=
  e.render.toList

def moreChars (es : List Expr) : List Char :=
  es.flatMap fun e => ',' :: ' ' :: e.chars

def argumentChars : List Expr → List Char
  | [] => []
  | e :: es => e.chars ++ moreChars es

def subscriptChars (es : List Expr) : List Char :=
  es.flatMap fun e => '[' :: (e.chars ++ [']'])

theorem toList_joinWith (es : List Expr) :
    (joinWith ", " (renderList es)).toList = argumentChars es := by
  induction es with
  | nil => rfl
  | cons e es ih =>
      cases es with
      | nil => simp [renderList, joinWith, argumentChars, moreChars, chars]
      | cons e' es =>
          rw [renderList] at ih
          rw [renderList, renderList, joinWith, String.toList_append, String.toList_append, ih]
          simp [argumentChars, moreChars, chars]

theorem toList_renderSubscripts (es : List Expr) :
    (renderSubscripts es).toList = subscriptChars es := by
  induction es with
  | nil => rfl
  | cons e es ih =>
      rw [renderSubscripts, String.toList_append, ih]
      simp [subscriptChars, chars]

theorem function_append (name : String) (as : List Expr) (cs : List Char) :
    (function name as).chars ++ cs = name.toList ++ '(' :: (argumentChars as ++ ')' :: cs) := by
  rw [chars, render, ← toList_joinWith]
  simp

theorem binary_append (operator : String) (l r : Expr) (cs : List Char) :
    (binary operator l r).chars ++ cs =
      '(' :: (l.chars ++ ' ' :: (operator.toList ++ ' ' :: (r.chars ++ ')' :: cs))) := by
  rw [chars, render]
  simp [chars]

theorem cast_append (target : DataType) (d : TypeDescriptor) (x : Expr) (cs : List Char) :
    (cast target (some d) x).chars ++ cs =
      "CAST".toList ++ '(' ::
        (x.chars ++ ' ' :: 'A' :: 'S' :: ' ' :: (d.storeType.toList ++ ')' :: cs)) := by
  rw [chars, render]
  simp [chars]

theorem index_append (a : Expr) (is : List Expr) (origin : Origin) :
    (index a is origin).chars = a.chars ++ subscriptChars is := by
  rw [chars, render, String.toList_append, toList_renderSubscripts, chars]

/-- The text of a constant or a column that is a single word. -/
def word? : Expr → Option String
  | column name _ => some name
  | literal .null => some "NULL"
  | literal (.boolean true) => some "TRUE"
  | literal (.boolean false) => some "FALSE"
  | _ => none

theorem chars_of_word? {e : Expr} {w : String} (h : e.word? = some w) : e.chars = w.toList := by
  unfold word? at h
  split at h <;> cases h <;> rfl

theorem chars_of_integer? {e : Expr} {n : Int64} (h : e.integer? = some n) :
    e.chars = (intText n.toInt).toList := by
  obtain ⟨value, hvalue, hn⟩ := Option.bind_eq_some_iff.1 h
  obtain rfl := eq_literal_of_constant? hvalue
  cases value with
  | int32 m =>
      obtain rfl := Option.some.inj hn
      rw [Int32.toInt_toInt64]
      rfl
  | int64 m =>
      obtain rfl := Option.some.inj hn
      rfl
  | _ => cases hn

/-! ## Roots

The root of an expression is what is left without its subscripts. Its first character says which
kind of a root it is. -/

end Expr

/-- What the first character of a text can belong to. -/
inductive Lead where
  | word
  | number
  | quote
  | group
  | other
deriving DecidableEq

def Lead.of (c : Char) : Lead :=
  if isWordStart c then .word
  else if isNumberChar c then .number
  else if c = '\x27' then .quote
  else if c = '(' then .group
  else .other

namespace Expr

/-- The roots, by what their text begins with. -/
inductive Root : Lead → Expr → Prop
  | word {e : Expr} {w : String} : e.word? = some w → isIdentifier w = true → Root .word e
  | function {name : String} (args : List Expr) :
      isIdentifier name = true → Root .word (function name args)
  | cast (target : DataType) {d : TypeDescriptor} (x : Expr) :
      d.dataType.storeType? = some d → Root .word (cast target (some d) x)
  | integer {e : Expr} {n : Int64} : e.integer? = some n → Root .number e
  | text (s : String) : Root .quote (literal (.text s))
  | binary {operator : String} (l r : Expr) :
      ' ' ∉ operator.toList → Root .group (binary operator l r)

theorem Root.exists_head? {lead : Lead} {e : Expr} (h : Root lead e) (cs : List Char) :
    ∃ c, (e.chars ++ cs).head? = some c ∧ Lead.of c = lead := by
  cases h with
  | word hw hid =>
      obtain ⟨c, rest, hc, hstart, -⟩ := exists_of_isIdentifier hid
      rw [chars_of_word? hw, hc]
      exact ⟨c, rfl, if_pos hstart⟩
  | function args hid =>
      obtain ⟨c, rest, hc, hstart, -⟩ := exists_of_isIdentifier hid
      rw [function_append, hc]
      exact ⟨c, rfl, if_pos hstart⟩
  | cast target x hd =>
      rw [cast_append]
      exact ⟨'C', rfl, by decide⟩
  | @integer _ n hn =>
      obtain ⟨c, rest, hc⟩ := List.exists_cons_of_ne_nil (toList_intText_ne_nil n.toInt)
      have hnumber : isNumberChar c = true :=
        isNumberChar_of_mem_intText (hc ▸ List.mem_cons_self ..)
      rw [chars_of_integer? hn, hc]
      refine ⟨c, rfl, ?_⟩
      rw [Lead.of, isWordStart_of_isNumberChar hnumber, if_neg Bool.false_ne_true, if_pos hnumber]
  | text s =>
      rw [chars, render, Scalar.render, toList_quoted_append]
      exact ⟨'\x27', rfl, by decide⟩
  | binary l r ho =>
      rw [binary_append]
      exact ⟨'(', rfl, by decide⟩

/-- Texts that begin alike have roots of the same kind. -/
theorem Root.lead_eq {lead lead' : Lead} {e e' : Expr} {cs cs' : List Char} (h : Root lead e)
    (h' : Root lead' e') (heq : e.chars ++ cs = e'.chars ++ cs') : lead = lead' := by
  obtain ⟨c, hc, rfl⟩ := h.exists_head? cs
  obtain ⟨c', hc', rfl⟩ := h'.exists_head? cs'
  rw [heq, hc', Option.some.injEq] at hc
  rw [hc]

/-- What is left of an expression without its subscripts. -/
def root : Expr → Expr
  | index a _ _ => a.root
  | e => e

/-- The subscripts of all accesses around the root, in order. -/
def subscripts : Expr → List Expr
  | index a is _ => a.subscripts ++ is
  | _ => []

theorem chars_eq (e : Expr) : e.chars = e.root.chars ++ subscriptChars e.subscripts := by
  induction e with
  | index a is origin ha _ =>
      rw [index_append, ha, root, subscripts, subscriptChars, subscriptChars, subscriptChars,
        List.flatMap_append, List.append_assoc]
  | _ => exact (List.append_nil _).symm

theorem everywhere_root {p : Expr → Prop} {e : Expr} (h : e.Everywhere p) :
    e.root.Everywhere p ∧ ∀ x ∈ e.subscripts, x.Everywhere p := by
  induction e with
  | index a is origin ha _ =>
      obtain ⟨-, hchildren⟩ := everywhere_iff.1 h
      rw [children, List.forall_mem_cons] at hchildren
      obtain ⟨hroot, hsubscripts⟩ := ha hchildren.1
      refine ⟨hroot, fun x hx => ?_⟩
      rw [subscripts, List.mem_append] at hx
      exact hx.elim (hsubscripts x) (hchildren.2 x)
  | _ => exact ⟨h, fun x hx => by cases hx⟩

theorem canonical_eq {e : Expr} (h : e.Readable) :
    e.canonical = e.root.canonical.subscripted (e.subscripts.map canonical) := by
  induction e with
  | index a is origin ha _ =>
      obtain ⟨⟨horigin, -⟩, hchildren⟩ := everywhere_iff.1 h
      obtain rfl : origin = .one := horigin
      rw [children, List.forall_mem_cons] at hchildren
      rw [canonical, ha hchildren.1, canonicalList_eq, subscripted_subscripted, root, subscripts,
        List.map_append]
  | _ => rfl

theorem exists_root {e : Expr} (h : e.Readable) : ∃ lead, Root lead e.root := by
  induction e with
  | column name type => exact ⟨_, .word rfl (h _ .root).2.1⟩
  | literal value =>
      cases value with
      | null => exact ⟨_, .word rfl (by decide)⟩
      | boolean b => cases b <;> exact ⟨_, .word rfl (by decide)⟩
      | int32 n => exact ⟨_, .integer rfl⟩
      | int64 n => exact ⟨_, .integer rfl⟩
      | float64 x => exact (h _ .root).2.elim
      | text s => exact ⟨_, .text s⟩
  | methodCall t m r as _ _ => exact (h _ .root).1.elim
  | function name as _ => exact ⟨_, .function as (h _ .root).2⟩
  | binary operator l r _ _ => exact ⟨_, .binary l r (h _ .root).2⟩
  | cast target storeType x _ =>
      cases storeType with
      | none => exact (h _ .root).1.elim
      | some descriptor => exact ⟨_, .cast target x (h _ .root).1⟩
  | index a is origin ha _ =>
      obtain ⟨-, hchildren⟩ := everywhere_iff.1 h
      exact ha (hchildren a (List.mem_cons_self ..))

theorem Readable.ne_closing {e : Expr} (h : e.Readable) (cs cs' : List Char) :
    e.chars ++ cs ≠ ')' :: cs' := by
  intro heq
  obtain ⟨lead, hroot⟩ := exists_root h
  obtain ⟨c, hc, hlead⟩ := hroot.exists_head? (subscriptChars e.subscripts ++ cs)
  rw [← List.append_assoc, ← chars_eq, heq] at hc
  obtain rfl := Option.some.inj hc
  subst hlead
  cases hroot

end Expr

end SqlLowering
