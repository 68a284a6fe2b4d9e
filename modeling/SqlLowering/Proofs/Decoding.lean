import Mathlib.Data.List.Nodup
import SqlLowering.Codec.Parse

/-!
# What decoding gives

Decoding reads the members of an object in their order, so that the first bad one is reported. What
it gives when none is bad depends on the order no longer: it is settled by the value under each key.

* `Field.given?` : what a field holds, by the value under its key. A field that is left out holds
  what its default is read as;
* `Fields.whole?` : the expression of a kind, when none of its fields is missing;
* `toOption_ofJson_object` : decoding an object without repeated keys looks up its kind, and then
  the fields of this kind;
* `ofJson_array` : an array decodes like the object that has the fields of its kind under their
  keys, if it has a right number of them, and else it is refused;
* `parse_of_document` : a text that holds a document decodes like this document.

Data types are objects with fields of the same sort (`DataType.toOption_ofJson_object`,
`DataType.ofJson_array`).
-/

namespace SqlLowering

/-! ## Results without their errors -/

section Results

variable {ε α β : Type}

@[simp]
theorem toOption_ok (a : α) : (Except.ok a : Except ε α).toOption = some a := rfl

@[simp]
theorem toOption_error (e : ε) : (Except.error e : Except ε α).toOption = none := rfl

theorem toOption_pure (a : α) : (pure a : Except ε α).toOption = pure a := rfl

theorem toOption_bind (x : Except ε α) (f : α → Except ε β) :
    (x >>= f).toOption = x.toOption >>= fun a => (f a).toOption := by
  cases x <;> rfl

theorem ok_bind (a : α) (f : α → Except ε β) : (Except.ok a >>= f) = f a := rfl

theorem toOption_eq_some {x : Except ε α} {a : α} : x.toOption = some a ↔ x = .ok a := by
  cases x <;> simp

end Results

/-! ## Members -/

section Members

variable {ms : List (String × Json)} {key : String} {v : Json}

theorem lookup_cons_ne {k : String} (h : key ≠ k) (v : Json) (ms : List (String × Json)) :
    ((k, v) :: ms).lookup key = ms.lookup key := by
  rw [List.lookup_cons, beq_false_of_ne h]

theorem lookup_eq_none (h : key ∉ ms.map Prod.fst) : ms.lookup key = none := by
  rw [List.lookup_eq_none_iff]
  intro m hm
  rw [bne_iff_ne]
  rintro rfl
  exact h (List.mem_map_of_mem hm)

theorem lookup_eq_some_iff (hkeys : (ms.map Prod.fst).Nodup) :
    ms.lookup key = some v ↔ (key, v) ∈ ms := by
  induction ms with
  | nil => simp
  | cons m ms ih =>
      obtain ⟨k, w⟩ := m
      rw [List.map_cons, List.nodup_cons] at hkeys
      by_cases hk : key = k
      · subst hk
        have hnot : (key, v) ∉ ms := fun hm => hkeys.1 (List.mem_map.2 ⟨(key, v), hm, rfl⟩)
        simp [hnot, eq_comm]
      · rw [lookup_cons_ne hk, ih hkeys.2]
        simp [hk]

/-- The order of members does not matter to what is found. -/
theorem lookup_perm {ms' : List (String × Json)} (hkeys : (ms.map Prod.fst).Nodup)
    (h : ms.Perm ms') (key : String) : ms.lookup key = ms'.lookup key := by
  have hkeys' : (ms'.map Prod.fst).Nodup := (h.map Prod.fst).nodup_iff.1 hkeys
  ext v
  rw [lookup_eq_some_iff hkeys, lookup_eq_some_iff hkeys', h.mem_iff]

end Members

namespace Expr

/-! ## Fields -/

theorem Field.key_injective : Function.Injective Field.key := by
  intro f g h
  cases f <;> cases g <;> first | rfl | exact absurd h (by decide)

theorem Field.key_ne_kind (f : Field) : f.key ≠ "kind" := by
  cases f <;> decide

theorem Kind.field?_key {kind : Kind} {f : Field} (hf : f ∈ kind.fields) :
    kind.field? f.key = some f := by
  cases hfound : kind.field? f.key with
  | none =>
      have hnone := List.find?_eq_none.1 hfound f hf
      simp at hnone
  | some g =>
      have hkey : g.key = f.key := by
        simpa using List.find?_some hfound
      rw [Field.key_injective hkey]

theorem Kind.field?_eq_some {kind : Kind} {key : String} {f : Field}
    (h : kind.field? key = some f) : f ∈ kind.fields ∧ f.key = key := by
  have hkey := List.find?_some h
  exact ⟨List.mem_of_find?_eq_some h, by simpa using hkey⟩

/-- What a document is read as in the place of a field, if it can be read. -/
def Field.read? (f : Field) (v : Json) : Option f.Holds :=
  (readField f v (fun _ => ofJson .inside v) (fun _ => readList v)).toOption

def Field.default? : Field → Option Json
  | receiver => some .null
  | args => some (.array [])
  | origin => some (.text "zero")
  | _ => none

/-- What a field holds, by the document that is given for it, if there is one. -/
def Field.given? (f : Field) (v : Option Json) : Option f.Holds :=
  (v.or f.default?).bind f.read?

namespace Fields

/-- The expression of a kind none of whose fields is missing. -/
def whole? (x : Fields) : Kind → Option Expr
  | .column => do return column (← x .name) (← x .datatype)
  | .literal => do return literal (← x .value)
  | .methodCall => do
    return methodCall (← x .declaringType) (← x .method) (← x .receiver) (← x .args)
  | .function => do return function (← x .name) (← x .args)
  | .binary => do return binary (← x .op) (← x .left) (← x .right)
  | .cast => do return cast (← x .target) none (← x .expr)
  | .index => do return index (← x .array) (← x .indices) (← x .origin)

variable {kind : Kind} {x y : Fields}

theorem whole?_congr (h : ∀ f ∈ kind.fields, x f = y f) : x.whole? kind = y.whole? kind := by
  cases kind <;> simp [Kind.fields] at h <;> simp [whole?, h]

theorem whole?_eq_none {f : Field} (hf : f ∈ kind.fields) (h : x f = none) :
    x.whole? kind = none := by
  cases kind <;> simp [Kind.fields] at hf <;> rcases hf with rfl | rfl | rfl | rfl <;>
    simp [whole?, h]

theorem toOption_require (fs : Fields) (f : Field) (h : f.default? = none) :
    (fs.require f).toOption = (fs f).or (f.given? none) := by
  have hgiven : f.given? none = none := by simp [Field.given?, h]
  rw [hgiven, require]
  cases fs f <;> rfl

/-- Building takes the defaults for the fields that have not been collected. -/
theorem toOption_build (fs : Fields) (kind : Kind) :
    (fs.build kind).toOption = whole? (fun f => (fs f).or (f.given? none)) kind := by
  have hreceiver : (fs .receiver).or (Field.receiver.given? none) =
      some ((fs .receiver).getD none) := by
    cases fs .receiver <;> rfl
  have hargs : (fs .args).or (Field.args.given? none) = some ((fs .args).getD []) := by
    cases fs .args <;> rfl
  have horigin : (fs .origin).or (Field.origin.given? none) =
      some ((fs .origin).getD .zero) := by
    cases fs .origin <;> rfl
  have hfield := toOption_require fs
  cases kind with
  | column =>
      simp only [build, whole?, toOption_bind, toOption_pure, hfield .name rfl,
        hfield .datatype rfl]
  | literal => simp only [build, whole?, toOption_bind, toOption_pure, hfield .value rfl]
  | methodCall =>
      simp only [build, whole?, toOption_bind, toOption_pure, hfield .declaringType rfl,
        hfield .method rfl, hreceiver, hargs]
      rfl
  | function =>
      simp only [build, whole?, toOption_bind, toOption_pure, hfield .name rfl, hargs]
      rfl
  | binary =>
      simp only [build, whole?, toOption_bind, toOption_pure, hfield .op rfl, hfield .left rfl,
        hfield .right rfl]
  | cast =>
      simp only [build, whole?, toOption_bind, toOption_pure, hfield .target rfl,
        hfield .expr rfl]
  | index =>
      simp only [build, whole?, toOption_bind, toOption_pure, hfield .array rfl,
        hfield .indices rfl, horigin]
      rfl

end Fields

/-! ## Expressions -/

theorem findKind_of_absent {ms : List (String × Json)} (h : "kind" ∉ ms.map Prod.fst)
    (nesting : Nesting) (kind : Kind) : findKind nesting (some kind) ms = .ok kind := by
  induction ms with
  | nil => rfl
  | cons m ms ih =>
      obtain ⟨key, v⟩ := m
      rw [List.map_cons, List.mem_cons, not_or] at h
      rw [findKind, if_neg (Ne.symm h.1), ih h.2]

theorem toOption_findKind {ms : List (String × Json)} (hkeys : (ms.map Prod.fst).Nodup)
    (nesting : Nesting) : (findKind nesting none ms).toOption =
      (ms.lookup "kind").bind fun v => (Kind.ofJson nesting v).toOption := by
  induction ms with
  | nil => rfl
  | cons m ms ih =>
      obtain ⟨key, v⟩ := m
      rw [List.map_cons, List.nodup_cons] at hkeys
      by_cases hkey : key = "kind"
      · subst hkey
        rw [findKind, if_pos rfl, List.lookup_cons_self]
        cases hkind : Kind.ofJson nesting v with
        | error e => simp [Except.bind, hkind]
        | ok kind =>
            simp [Except.bind, hkind, findKind_of_absent hkeys.1 nesting kind]
      · rw [findKind, if_neg hkey, ih hkeys.2, lookup_cons_ne (Ne.symm hkey)]

/-- **Reading members and building looks up each field**, but for those that have been collected
before. -/
theorem toOption_readMembers {kind : Kind} {ms : List (String × Json)}
    (hkeys : (ms.map Prod.fst).Nodup) {fs : Fields}
    (hfree : ∀ f ∈ kind.fields, f.key ∈ ms.map Prod.fst → fs f = none) :
    (readMembers kind fs ms >>= fun fs => fs.build kind).toOption =
      Fields.whole? (fun f => (fs f).or (f.given? (ms.lookup f.key))) kind := by
  induction ms generalizing fs with
  | nil => exact Fields.toOption_build fs kind
  | cons m ms ih =>
      obtain ⟨key, v⟩ := m
      rw [List.map_cons, List.nodup_cons] at hkeys
      rw [readMembers]
      cases hfield : kind.field? key with
      | none =>
          rw [ih hkeys.2 fun f hf hmem => hfree f hf (List.mem_cons_of_mem _ hmem)]
          refine Fields.whole?_congr fun f hf => ?_
          have hne : f.key ≠ key := by
            rintro rfl
            rw [Kind.field?_key hf] at hfield
            cases hfield
          rw [lookup_cons_ne hne]
      | some f =>
          obtain ⟨hf, rfl⟩ := Kind.field?_eq_some hfield
          have hnone : fs f = none := hfree f hf (List.mem_cons_self ..)
          simp only [hnone, Option.isSome_none, Bool.false_eq_true, if_false]
          cases hread : readField f v (fun _ => ofJson .inside v) (fun _ => readList v) with
          | error e =>
              refine (Fields.whole?_eq_none hf ?_).symm
              simp [hnone, Field.given?, Field.read?, hread]
          | ok x =>
              simp only
              rw [ih hkeys.2 ?_]
              · refine Fields.whole?_congr fun g hg => ?_
                by_cases hg : f = g
                · subst hg
                  simp [Fields.put, hnone, Field.given?, Field.read?, hread]
                · have hne : g.key ≠ f.key := fun h => hg (Field.key_injective h).symm
                  rw [lookup_cons_ne hne, Fields.put, dif_neg hg]
              · intro g hg hmem
                have hne : f ≠ g := by
                  rintro rfl
                  exact hkeys.1 hmem
                rw [Fields.put, dif_neg hne]
                exact hfree g hg (List.mem_cons_of_mem _ hmem)

/-- **Decoding an object looks up its kind and the fields of this kind.** -/
theorem toOption_ofJson_object {ms : List (String × Json)} (hkeys : (ms.map Prod.fst).Nodup)
    (nesting : Nesting) : (ofJson nesting (.object ms)).toOption =
      ((ms.lookup "kind").bind fun v => (Kind.ofJson nesting v).toOption).bind fun kind =>
        Fields.whole? (fun f => f.given? (ms.lookup f.key)) kind := by
  rw [ofJson, toOption_bind, toOption_findKind hkeys]
  congr 1
  funext kind
  exact toOption_readMembers hkeys fun _ _ _ => rfl

/-! ## Expressions as arrays -/

theorem Kind.fields_nodup (kind : Kind) : kind.fields.Nodup := by
  cases kind <;> decide

/-- Where a kind may only be named, no other kind is read than where it may also be numbered. -/
theorem Kind.ofJson_inside {nesting : Nesting} {tag : Json} {kind : Kind}
    (h : Kind.ofJson nesting tag = .ok kind) : Kind.ofJson .inside tag = .ok kind := by
  cases nesting with
  | inside => exact h
  | outermost =>
      cases tag with
      | text s => exact h
      | _ => simp [Kind.ofJson] at h

def Kind.members (kind : Kind) (items : List Json) : List (String × Json) :=
  (kind.fields.map Field.key).zip items

theorem Kind.kind_notMem_members (kind : Kind) (items : List Json) :
    "kind" ∉ (kind.members items).map Prod.fst := by
  intro hmem
  obtain ⟨m, hm, hkey⟩ := List.mem_map.1 hmem
  obtain ⟨f, _, hf⟩ := List.mem_map.1 (List.of_mem_zip hm).1
  exact f.key_ne_kind (hf.trans hkey)

theorem readItems_eq {kind : Kind} {order : List Field} (hnodup : order.Nodup)
    (horder : ∀ f ∈ order, f ∈ kind.fields) (fs : Fields) (hfree : ∀ f ∈ order, fs f = none)
    (items : List Json) :
    readItems fs order items = readMembers kind fs ((order.map Field.key).zip items) := by
  induction items generalizing fs order with
  | nil => simp [readItems, readMembers]
  | cons v items ih =>
      cases order with
      | nil => simp [readItems, readMembers]
      | cons f order =>
          rw [List.nodup_cons] at hnodup
          have hf := Kind.field?_key (horder f (List.mem_cons_self ..))
          have hnone := hfree f (List.mem_cons_self ..)
          simp only [List.map_cons, List.zip_cons_cons, readItems, readMembers, hf, hnone,
            Option.isSome_none, Bool.false_eq_true, if_false]
          cases readField f v (fun _ => ofJson .inside v) (fun _ => readList v) with
          | error e => rfl
          | ok x =>
              refine ih hnodup.2 (fun g hg => horder g (List.mem_cons_of_mem f hg)) _ ?_
              intro g hg
              have hne : f ≠ g := by
                rintro rfl
                exact hnodup.1 hg
              rw [Fields.put, dif_neg hne]
              exact hfree g (List.mem_cons_of_mem f hg)

/-- **An array decodes like the object of its fields**, when it has as many as its kind may have. -/
theorem ofJson_array {kind : Kind} {tag : Json} (htag : Kind.ofJson .inside tag = .ok kind)
    {items : List Json} (hlow : kind.required ≤ items.length)
    (hhigh : items.length ≤ kind.fields.length) (nesting : Nesting) :
    ofJson nesting (.array (tag :: items)) =
      ofJson nesting (.object (("kind", tag) :: kind.members items)) := by
  have hskip : kind.field? "kind" = none := by
    cases kind <;> decide
  have hread : readMembers kind .empty (("kind", tag) :: kind.members items) =
      readItems .empty kind.fields items := by
    have hitems := readItems_eq kind.fields_nodup (fun _ hf => hf) .empty (fun _ _ => rfl) items
    rw [readMembers, hskip, hitems]
    rfl
  rw [ofJson, ofJson, findKind, if_pos rfl]
  cases hkind : Kind.ofJson nesting tag with
  | error e => rfl
  | ok k =>
      obtain rfl : kind = k := by
        have hsame := htag.symm.trans (Kind.ofJson_inside hkind)
        injection hsame
      have hfind : (Except.ok kind : Codec.Result Kind).bind
          (fun k => findKind nesting (some k) (kind.members items)) = .ok kind :=
        findKind_of_absent (kind.kind_notMem_members items) nesting kind
      have hcheck : ∀ fields, checkLength kind items.length fields = .ok fields := by
        intro fields
        rw [checkLength, if_neg (by omega), if_neg (by omega)]
      simp only [Option.isSome_none, Bool.false_eq_true, if_false, hfind, ok_bind, hread, hcheck]

theorem toOption_ofJson_array {kind : Kind} {tag : Json}
    (htag : Kind.ofJson .inside tag = .ok kind) {items : List Json}
    (hlength : ¬ (kind.required ≤ items.length ∧ items.length ≤ kind.fields.length))
    (nesting : Nesting) : (ofJson nesting (.array (tag :: items))).toOption = none := by
  have hcheck : ∀ fields, (checkLength kind items.length fields).toOption = none := by
    intro fields
    unfold checkLength
    split_ifs <;> first | rfl | omega
  rw [ofJson, toOption_bind]
  cases hkind : Kind.ofJson nesting tag with
  | error e => rfl
  | ok k =>
      obtain rfl : kind = k := by
        have hsame := htag.symm.trans (Kind.ofJson_inside hkind)
        injection hsame
      simp [toOption_bind, hcheck]

end Expr

/-! ## Data types -/

namespace DataType

def members (items : List Json) : List (String × Json) :=
  ["id", "max_length"].zip items

variable {ms : List (String × Json)}

/-- Reading members and building looks up each field, but for those that have been collected
before. -/
theorem toOption_readMembers (hkeys : (ms.map Prod.fst).Nodup) (fs : Fields)
    (hbase : "id" ∈ ms.map Prod.fst → fs.base = none)
    (hlength : "max_length" ∈ ms.map Prod.fst → fs.maxLength = none) :
    ((readMembers fs ms).bind Fields.build).toOption =
      (fs.base.or ((ms.lookup "id").bind fun v => (ValueType.ofJson v).toOption)).bind fun t =>
        (fs.maxLength.or (((ms.lookup "max_length").or (some .null)).bind
          fun v => (readLength v).toOption)).bind fun n => some ⟨t, n⟩ := by
  induction ms generalizing fs with
  | nil =>
      obtain ⟨base, maxLength⟩ := fs
      cases base <;> cases maxLength <;> rfl
  | cons m ms ih =>
      obtain ⟨key, v⟩ := m
      rw [List.map_cons, List.nodup_cons] at hkeys
      by_cases hid : key = "id"
      · subst hid
        have hne : "max_length" ≠ "id" := by decide
        rw [readMembers, if_pos rfl, hbase (List.mem_cons_self ..), List.lookup_cons_self,
          lookup_cons_ne hne]
        cases hread : ValueType.ofJson v with
        | error e => simp [Except.bind, hread]
        | ok t =>
            have hrest := ih hkeys.2 { fs with base := some t } (fun h => absurd h hkeys.1)
              (fun h => hlength (List.mem_cons_of_mem _ h))
            simpa [Except.bind, hread] using hrest
      · by_cases hmax : key = "max_length"
        · subst hmax
          have hne : "id" ≠ "max_length" := by decide
          rw [readMembers, if_neg hid, if_pos rfl, hlength (List.mem_cons_self ..),
            List.lookup_cons_self, lookup_cons_ne hne]
          cases hread : readLength v with
          | error e => simp [Except.bind, hread]
          | ok n =>
              have hrest := ih hkeys.2 { fs with maxLength := some n }
                (fun h => hbase (List.mem_cons_of_mem _ h)) (fun h => absurd h hkeys.1)
              simpa [Except.bind, hread] using hrest
        · rw [readMembers, if_neg hid, if_neg hmax, lookup_cons_ne (Ne.symm hid),
            lookup_cons_ne (Ne.symm hmax)]
          exact ih hkeys.2 fs (fun h => hbase (List.mem_cons_of_mem _ h))
            (fun h => hlength (List.mem_cons_of_mem _ h))

theorem toOption_ofJson_object (hkeys : (ms.map Prod.fst).Nodup) :
    (ofJson (.object ms)).toOption =
      ((ms.lookup "id").bind fun v => (ValueType.ofJson v).toOption).bind fun t =>
        (((ms.lookup "max_length").or (some .null)).bind
          fun v => (readLength v).toOption).bind fun n => some ⟨t, n⟩ :=
  toOption_readMembers hkeys ⟨none, none⟩ (fun _ => rfl) (fun _ => rfl)

theorem ofJson_array {items : List Json} (hlow : 1 ≤ items.length) (hhigh : items.length ≤ 2) :
    ofJson (.array items) = ofJson (.object (members items)) := by
  match items, hlow, hhigh with
  | [t], _, _ =>
      simp only [ofJson, members, readMembers, List.zip_cons_cons, List.zip_nil_right]
      cases ValueType.ofJson t <;> rfl
  | [t, n], _, _ =>
      simp only [ofJson, members, readMembers, List.zip_cons_cons, List.zip_nil_right]
      cases ValueType.ofJson t <;> cases readLength n <;> rfl

theorem toOption_ofJson_array {items : List Json}
    (hlength : ¬ (1 ≤ items.length ∧ items.length ≤ 2)) :
    (ofJson (.array items)).toOption = none := by
  match items, hlength with
  | [], _ => rfl
  | [t], hlength => simp at hlength
  | [t, n], hlength => simp at hlength
  | t :: n :: m :: rest, _ =>
      rw [ofJson]
      cases ValueType.ofJson t <;> cases readLength n <;> rfl

end DataType

/-! ## Texts -/

theorem Expr.parse_of_document {s : String} {d : Json}
    (h : Json.parse? (.kept Json.depthLimit) s = some d) :
    parse s = (ofJson .outermost d).mapError .mismatch := by
  unfold Json.parse? at h
  split at h
  · rename_i v rest hread
    split_ifs at h with hend
    obtain rfl := Option.some.inj h
    simp only [parse, Codec.Intake.parse, intake, StateT.run, hread]
    cases ofJson .outermost v with
    | error m => rfl
    | ok e => simp [ok_bind, hend, Except.mapError, pure, Except.pure]
  · cases h

theorem Expr.parse_eq_ok_iff {s : String} {d : Json}
    (h : Json.parse? (.kept Json.depthLimit) s = some d) (e : Expr) :
    parse s = .ok e ↔ ofJson .outermost d = .ok e := by
  rw [parse_of_document h]
  cases ofJson .outermost d <;> simp [Except.mapError]

/-- A text that holds no document is not decoded, wherever the fault is. -/
theorem Expr.parse_ne_ok {s : String} (h : Json.parse? (.kept Json.depthLimit) s = none)
    (e : Expr) : parse s ≠ .ok e := by
  intro he
  simp only [parse, Codec.Intake.parse, intake, StateT.run] at he
  unfold Json.parse? at h
  split at h
  · rename_i v rest hread
    split_ifs at h with hend
    rw [hread] at he
    cases hv : ofJson .outermost v with
    | error m =>
        simp only [hv] at he
        cases he
    | ok e' =>
        simp only [hv, ok_bind, if_neg hend] at he
        cases he
  · rename_i fault hread
    rw [hread] at he
    cases he

end SqlLowering
