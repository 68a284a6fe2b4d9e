import Mathlib.Logic.Relation
import SqlLowering.Proofs.Documents
import SqlLowering.Proofs.Records

/-!
# Spellings of an encoding

An expression may be encoded in many ways. `Respelling` lists the changes that make no difference to
what is decoded: in a record, the order of the members, members that are no fields, defaults that
are written or left out, and the array of the fields; choices without a value; and all of these
inside a field or a list. `Respelled` is any number of changes in either direction.

Each change is read alike in its place, by induction on the place where it is made
(`Respelling.readAlike`), and so texts that hold respelled documents decode alike
(`parse_respelled`). The array of the fields has no gaps: it takes the place of an object in which
no field is left out before a given one, and the defaults that are missing can be written first.
A text with a number that is too large or with half of a surrogate pair holds no document, wherever
they are, and is not decoded.
-/

namespace SqlLowering

namespace Expr

/-! ## Changes -/

/-- One change of the spelling in a place. -/
inductive Respelling : Place → Json → Json → Prop
  /-- Another order of the members. -/
  | reorder {p : Place} {ms ms' : List (String × Json)} :
      p = .expr ∨ p = .dataType → (ms.map Prod.fst).Nodup → ms.Perm ms' →
      Respelling p (.object ms) (.object ms')
  /-- One more member, that is no field and not the kind. -/
  | unknown {p : Place} {ms : List (String × Json)} {key : String} (v : Json) :
      p = .expr ∧ key ≠ "kind" ∨ p = .dataType → (ms.map Prod.fst).Nodup →
      key ∉ ms.map Prod.fst →
      (∀ r : Record, r.place = p → r.Heads ms → key ∉ r.fields.map Prod.fst) →
      Respelling p (.object ms) (.object ((key, v) :: ms))
  /-- The default of a field that was left out. -/
  | default {r : Record} {ms : List (String × Json)} {key : String} {v : Json} :
      r.Heads ms → (ms.map Prod.fst).Nodup → key ∉ ms.map Prod.fst → r.default? key = some v →
      Respelling r.place (.object ms) (.object ((key, v) :: ms))
  /-- The array of the fields. -/
  | array {r : Record} {items : List Json} :
      r.required ≤ items.length → items.length ≤ r.fields.length →
      Respelling r.place (.object (r.members items)) (.array (r.head ++ items))
  /-- A change inside a field of an object. -/
  | field {r : Record} {before after : List (String × Json)} {key : String} {p : Place}
      {v v' : Json} :
      r.Heads (before ++ (key, v) :: after) →
      ((before ++ (key, v) :: after).map Prod.fst).Nodup → (key, p) ∈ r.fields →
      Respelling p v v' →
      Respelling r.place (.object (before ++ (key, v) :: after))
        (.object (before ++ (key, v') :: after))
  /-- A change inside a field of an array. -/
  | item {r : Record} {before after : List Json} {key : String} {p : Place} {v v' : Json} :
      r.fields[before.length]? = some (key, p) → Respelling p v v' →
      Respelling r.place (.array (r.head ++ (before ++ v :: after)))
        (.array (r.head ++ (before ++ v' :: after)))
  /-- A change inside a list of expressions. -/
  | element {before after : List Json} {v v' : Json} :
      Respelling .expr v v' →
      Respelling .exprs (.array (before ++ v :: after)) (.array (before ++ v' :: after))
  /-- A value type or an origin by its name, or with null. -/
  | name {p : Place} (s : String) :
      p = .valueType ∨ p = .origin → Respelling p (.text s) (.object [(s, .null)])
  /-- The constant null by its name, or with null. -/
  | null : Respelling .scalar (.text "null") (.object [("null", .null)])

/-- Any number of changes, each in either direction. -/
def Respelled : Json → Json → Prop :=
  Relation.EqvGen (Respelling .expr)

/-! ## Changes are read alike -/

theorem toOption_readElements_congr {before after : List Json} {v v' : Json}
    (h : (ofJson .inside v).toOption = (ofJson .inside v').toOption) :
    (readElements (before ++ v :: after)).toOption =
      (readElements (before ++ v' :: after)).toOption := by
  induction before with
  | nil => rw [List.nil_append, List.nil_append, readElements, readElements, toOption_bind, h,
      ← toOption_bind]
  | cons w before ih =>
      rw [List.cons_append, List.cons_append, readElements, readElements]
      simp only [toOption_bind, ih]

/-- Where no choice has a value, a name is read like the object that gives it with null. -/
theorem decode_name {α : Type} {choices : List (Codec.Choice α)}
    (hbare : ∀ c ∈ choices, c.alone = c.withValue .null) (s : String) :
    Codec.Choice.decode choices (.text s) = Codec.Choice.decode choices (.object [(s, .null)]) := by
  rw [Codec.Choice.decode, Codec.Choice.decode]
  cases hfound : Codec.findNamed Codec.Choice.name choices s with
  | error m => rfl
  | ok c =>
      have hc : c ∈ choices := by
        unfold Codec.findNamed at hfound
        split at hfound
        · rename_i d hd
          injection hfound with hfound
          exact hfound ▸ List.mem_of_find?_eq_some hd
        · cases hfound
      have hsame := hbare c hc
      cases c <;> exact hsame

/-- **A change is read alike.** -/
theorem Respelling.readAlike {p : Place} {v v' : Json} (h : Respelling p v v') :
    ReadAlike p v v' := by
  induction h with
  | reorder hp hkeys hperm =>
      have hkeys' := (hperm.map Prod.fst).nodup_iff.1 hkeys
      refine readAlike_object hp hkeys hkeys' (fun _ => lookup_perm hkeys hperm "kind") ?_
      intro r _ _ f _
      rw [lookup_perm hkeys hperm f.1]
      exact optionRel_refl _
  | unknown v hp hkeys hnew hkey =>
      refine readAlike_cons (hp.imp_left And.left) hkeys hnew ?_ ?_
      · rintro rfl
        exact (hp.resolve_right (by decide)).2
      · intro r hr hheads hmem
        exact absurd hmem (hkey r hr hheads)
  | @default r ms key v hheads hkeys hnew hdefault =>
      refine readAlike_cons r.place_eq hkeys hnew ?_ ?_
      · intro hr
        obtain ⟨p, hfield⟩ := r.exists_mem_of_default? hdefault
        exact r.ne_kind_of_mem hr hfield
      · intro r' hr' hheads' _
        rw [Record.eq_of_heads hr' hheads' hheads]
        exact hdefault
  | array hlow hhigh => exact readAlike_array hlow hhigh
  | field hheads hkeys hfield _ ih => exact readAlike_field hheads hkeys hfield ih
  | item hfield _ ih => exact readAlike_item hfield ih
  | element _ ih =>
      rw [ReadAlike, readList, readList]
      exact toOption_readElements_congr (ih.1 .inside)
  | name s hp =>
      rcases hp with rfl | rfl
      · refine congrArg Except.toOption (decode_name ?_ s)
        simp [ValueType.choices, Codec.Choice.alone, Codec.Choice.withValue, Codec.readNull,
          Except.map]
      · refine congrArg Except.toOption (decode_name ?_ s)
        simp [Origin.choices, Codec.Choice.alone, Codec.Choice.withValue, Codec.readNull,
          Except.map]
  | null => rfl

theorem Respelled.readAlike {d d' : Json} (h : Respelled d d') : ReadAlike .expr d d' := by
  induction h with
  | rel d d' h => exact h.readAlike
  | refl d => exact .refl _ d
  | symm d d' _ ih => exact ih.symm
  | trans d d' d'' _ _ ih ih' => exact ih.trans ih'

/-- **Spellings decode alike.** Of two texts that hold documents without too many open containers,
and whose documents differ by changes of the spelling only, both are decoded to the same expression
or none is decoded. -/
theorem parse_respelled {s s' : String} {d d' : Json}
    (hs : Json.parse? (.kept Json.depthLimit) s = some d)
    (hs' : Json.parse? (.kept Json.depthLimit) s' = some d') (h : Respelled d d') (e : Expr) :
    parse s = .ok e ↔ parse s' = .ok e := by
  rw [parse_eq_ok_iff hs, parse_eq_ok_iff hs', ← toOption_eq_some, ← toOption_eq_some,
    h.readAlike.1 .outermost]

/-- A default that was left out, another order, and the array of the fields. -/
theorem parse_respelled_defaultArgs :
    parse (Json.object [("name", .text "f"), ("kind", .text "function")]).render =
        .ok (function "f" []) ∧
      parse (Json.array [.text "function", .text "f", .array []]).render =
        .ok (function "f" []) := by
  have hobject : Json.parse? (.kept Json.depthLimit)
      (Json.object [("name", .text "f"), ("kind", .text "function")]).render =
        some (.object [("name", .text "f"), ("kind", .text "function")]) :=
    Json.parse?_render (by simp) (by decide)
  have harray : Json.parse? (.kept Json.depthLimit)
      (Json.array [.text "function", .text "f", .array []]).render =
        some (.array [.text "function", .text "f", .array []]) :=
    Json.parse?_render (by simp) (by decide)
  have hdecoded : parse (Json.object [("name", .text "f"), ("kind", .text "function")]).render =
      .ok (function "f" []) := by
    rw [parse_eq_ok_iff hobject]
    rfl
  let r : Record := .expr .function (.text "function") rfl
  have hdefault : Respelling .expr (.object [("name", .text "f"), ("kind", .text "function")])
      (.object [("args", .array []), ("name", .text "f"), ("kind", .text "function")]) :=
    .default (r := r) (List.forall_mem_singleton.2 rfl) (by decide) (by decide) rfl
  have horder : Respelling .expr
      (.object [("args", .array []), ("name", .text "f"), ("kind", .text "function")])
      (.object [("kind", .text "function"), ("name", .text "f"), ("args", .array [])]) :=
    .reorder (.inl rfl) (by decide) (List.reverse_perm _).symm
  have hfields : Respelling r.place (.object (r.members [.text "f", .array []]))
      (.array (r.head ++ [.text "f", .array []])) := .array (by decide) (by decide)
  have hrespelled := (Relation.EqvGen.rel _ _ hdefault).trans _ _ _
    ((Relation.EqvGen.rel _ _ horder).trans _ _ _ (.rel _ _ hfields))
  exact ⟨hdecoded, (parse_respelled hobject harray hrespelled _).1 hdecoded⟩

/-- Changes that do make a difference. A field that is left out before a given one leaves a gap that
an array does not show: the arguments are read in the place of the receiver. And a member that is no
field is read like the others, so that a number in it may be too large, and a surrogate without a
partner. -/
theorem parse_respelled_exceptions :
    (parse (Json.object [("kind", .text "method_call"), ("declaring_type", .text "geometry"),
        ("method", .text "Area"), ("args", .array [])]).render =
      .ok (methodCall .geometry "Area" none []) ∧
    ∀ e, parse (Json.array [.text "method_call", .text "geometry", .text "Area",
      .array []]).render ≠ .ok e) ∧
    parse "\x7b\"kind\":\"function\",\"name\":\"f\"\x7d" = .ok (function "f" []) ∧
    (∀ e, parse "\x7b\"kind\":\"function\",\"name\":\"f\",\"x\":1e400\x7d" ≠ .ok e) ∧
    ∀ e, parse "\x7b\"kind\":\"function\",\"name\":\"f\",\"x\":\"\\ud800\"\x7d" ≠ .ok e := by
  refine ⟨⟨?_, fun e => ?_⟩, ?_, fun e => ?_, fun e => ?_⟩
  · rw [parse_eq_ok_iff (Json.parse?_render (by simp) (by decide))]
    rfl
  · rw [Ne, parse_eq_ok_iff (Json.parse?_render (by simp) (by decide))]
    intro h
    cases h
  · have hdocument : Json.parse? (.kept Json.depthLimit)
        "\x7b\"kind\":\"function\",\"name\":\"f\"\x7d" =
          some (.object [("kind", .text "function"), ("name", .text "f")]) := rfl
    rw [parse_eq_ok_iff hdocument]
    rfl
  · exact parse_ne_ok rfl e
  · exact parse_ne_ok rfl e

end Expr

end SqlLowering
