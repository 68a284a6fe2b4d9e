import SqlLowering.Proofs.Decoding

/-!
# Records

An expression and a data type are records: objects of certain fields, or arrays of them. What a
record is read as depends on the documents of its fields only, and on these only by what they are
read as in their places.

* `Place` : the places of an encoding. `ReadAlike` says of two documents that they are read alike in
  a place: they give the same value, or both are refused;
* `Record` : an expression of a kind, with the tag that gives the kind, or a data type;
* `readAlike_object` : objects are read alike when their fields are, and `readAlike_field` when a
  single one is;
* `readAlike_array` : an array is read like the object of its fields, so a field of an array may be
  changed like a field of an object (`readAlike_item`).
-/

namespace SqlLowering

namespace Expr

/-! ## Places and records -/

/-- The places of an encoding, by what stands in them. -/
inductive Place where
  /-- An expression; in the place of a receiver also null. -/
  | expr
  | exprs
  | dataType
  | valueType
  | origin
  | scalar
  /-- A text or a length. -/
  | other
deriving DecidableEq

def Field.place : Field → Place
  | name | method | op => .other
  | datatype | declaringType => .valueType
  | value => .scalar
  | receiver | left | right | expr | array => .expr
  | args | indices => .exprs
  | target => .dataType
  | origin => .origin

/-- What has fields: an expression of a kind, which its tag gives, or a data type. -/
inductive Record where
  | expr (kind : Kind) (tag : Json) (htag : Kind.ofJson .inside tag = .ok kind)
  | dataType

namespace Record

def place : Record → Place
  | expr _ _ _ => .expr
  | dataType => .dataType

/-- The keys and places of the fields, in the order an array gives them. -/
def fields : Record → List (String × Place)
  | expr kind _ _ => kind.fields.map fun f => (f.key, f.place)
  | dataType => [("id", .valueType), ("max_length", .other)]

/-- How many fields at the start of the order have no default. -/
def required : Record → Nat
  | expr kind _ _ => kind.required
  | dataType => 1

def default? : Record → String → Option Json
  | expr kind _ _, key => (kind.field? key).bind Field.default?
  | dataType, key => if key = "max_length" then some .null else none

def head : Record → List Json
  | expr _ tag _ => [tag]
  | dataType => []

/-- The members of an object that say which record it is. -/
def headMembers (r : Record) : List (String × Json) :=
  r.head.map fun tag => ("kind", tag)

/-- The members of an object that gives some fields in order. -/
def members (r : Record) (items : List Json) : List (String × Json) :=
  r.headMembers ++ (r.fields.map Prod.fst).zip items

/-- Whether the members of an object say that it is the record. -/
def Heads (r : Record) (ms : List (String × Json)) : Prop :=
  ∀ m ∈ r.headMembers, ms.lookup m.1 = some m.2

end Record

/-! ## Reading alike -/

/-- Two documents are read alike in a place, but for the mismatches of those that are refused. -/
def ReadAlike : Place → Json → Json → Prop
  | .expr, v, v' =>
    (∀ nesting, (ofJson nesting v).toOption = (ofJson nesting v').toOption) ∧
      (v = .null ↔ v' = .null)
  | .exprs, v, v' => (readList v).toOption = (readList v').toOption
  | .dataType, v, v' => (DataType.ofJson v).toOption = (DataType.ofJson v').toOption
  | .valueType, v, v' => (ValueType.ofJson v).toOption = (ValueType.ofJson v').toOption
  | .origin, v, v' => (Origin.ofJson v).toOption = (Origin.ofJson v').toOption
  | .scalar, v, v' => (Scalar.ofJson v).toOption = (Scalar.ofJson v').toOption
  | .other, v, v' => v = v'

theorem ReadAlike.refl (p : Place) (v : Json) : ReadAlike p v v := by
  cases p with
  | expr => exact ⟨fun _ => rfl, .rfl⟩
  | _ => rfl

theorem ReadAlike.symm {p : Place} {v v' : Json} (h : ReadAlike p v v') : ReadAlike p v' v := by
  cases p with
  | expr => exact ⟨fun nesting => (h.1 nesting).symm, h.2.symm⟩
  | _ => exact Eq.symm h

theorem ReadAlike.trans {p : Place} {v v' v'' : Json} (h : ReadAlike p v v')
    (h' : ReadAlike p v' v'') : ReadAlike p v v'' := by
  cases p with
  | expr => exact ⟨fun nesting => (h.1 nesting).trans (h'.1 nesting), h.2.trans h'.2⟩
  | _ => exact Eq.trans h h'

theorem Field.read?_receiver {v : Json} (h : v ≠ .null) :
    receiver.read? v = (ofJson .inside v).toOption.map some := by
  cases v with
  | null => exact absurd rfl h
  | _ =>
      simp only [read?, readField]
      cases ofJson .inside _ <;> rfl

theorem Field.read?_congr {f : Field} {v v' : Json} (h : ReadAlike f.place v v') :
    f.read? v = f.read? v' := by
  cases f with
  | receiver =>
      by_cases hv : v = .null
      · rw [hv, h.2.1 hv]
      · rw [read?_receiver hv, read?_receiver fun hv' => hv (h.2.2 hv'), h.1 .inside]
  | left => exact h.1 .inside
  | right => exact h.1 .inside
  | expr => exact h.1 .inside
  | array => exact h.1 .inside
  | name => exact congrArg _ h
  | method => exact congrArg _ h
  | op => exact congrArg _ h
  | _ => exact h

theorem bind_congr_of_rel {α : Type} {R : Json → Json → Prop} {read : Json → Option α}
    (hread : ∀ v v', R v v' → read v = read v') {o o' : Option Json} (h : Option.Rel R o o') :
    o.bind read = o'.bind read := by
  cases h with
  | none => rfl
  | some h => exact hread _ _ h

/-! ## Objects and arrays -/

/-- **Objects are read alike when their fields are**, whatever else they have in whatever order. -/
theorem readAlike_object {p : Place} (hp : p = .expr ∨ p = .dataType)
    {ms ms' : List (String × Json)} (hkeys : (ms.map Prod.fst).Nodup)
    (hkeys' : (ms'.map Prod.fst).Nodup)
    (hkind : p = .expr → ms.lookup "kind" = ms'.lookup "kind")
    (h : ∀ r : Record, r.place = p → r.Heads ms → ∀ f ∈ r.fields,
      Option.Rel (ReadAlike f.2) ((ms.lookup f.1).or (r.default? f.1))
        ((ms'.lookup f.1).or (r.default? f.1))) :
    ReadAlike p (.object ms) (.object ms') := by
  rcases hp with rfl | rfl
  · refine ⟨fun nesting => ?_, by simp⟩
    rw [toOption_ofJson_object hkeys, toOption_ofJson_object hkeys', ← hkind rfl]
    cases htag : ms.lookup "kind" with
    | none => rfl
    | some tag =>
        simp only [Option.bind_some]
        cases hread : Kind.ofJson nesting tag with
        | error e => rfl
        | ok kind =>
            have hfields := h (.expr kind tag (Kind.ofJson_inside hread)) rfl
              (List.forall_mem_singleton.2 htag)
            simp only [toOption_ok, Option.bind_some]
            refine Fields.whole?_congr fun f hf => ?_
            have hgiven := hfields (f.key, f.place) (List.mem_map_of_mem hf)
            have hdefault : (kind.field? f.key).bind Field.default? = f.default? := by
              rw [Kind.field?_key hf, Option.bind_some]
            rw [Record.default?, hdefault] at hgiven
            exact bind_congr_of_rel (R := ReadAlike f.place)
              (fun _ _ hv => Field.read?_congr hv) hgiven
  · have hfields := h .dataType rfl (by simp [Record.Heads, Record.headMembers, Record.head])
    have hid := hfields ("id", .valueType) (by simp [Record.fields])
    have hlength := hfields ("max_length", .other) (by simp [Record.fields])
    have hnone : Record.dataType.default? "id" = none := by decide
    rw [hnone, Option.or_none, Option.or_none] at hid
    rw [ReadAlike, DataType.toOption_ofJson_object hkeys, DataType.toOption_ofJson_object hkeys',
      bind_congr_of_rel (fun _ _ hv => hv) hid]
    congr 1
    funext t
    have hread : ∀ v v', ReadAlike .other v v' →
        (DataType.readLength v).toOption = (DataType.readLength v').toOption := by
      rintro v _ rfl
      rfl
    exact congrArg (Option.bind · _) (bind_congr_of_rel hread hlength)

theorem zip_fst_sublist (keys : List String) (items : List Json) :
    List.Sublist ((keys.zip items).map Prod.fst) keys := by
  induction keys generalizing items with
  | nil => simp
  | cons key keys ih =>
      cases items with
      | nil => simp
      | cons v items => exact (ih items).cons_cons key

namespace Record

theorem fields_nodup (r : Record) : (r.fields.map Prod.fst).Nodup := by
  cases r with
  | expr kind tag _ =>
      rw [fields, List.map_map]
      exact kind.fields_nodup.map Field.key_injective
  | dataType => decide

theorem members_nodup (r : Record) (items : List Json) :
    ((r.members items).map Prod.fst).Nodup := by
  have hzip := r.fields_nodup.sublist (zip_fst_sublist (r.fields.map Prod.fst) items)
  cases r with
  | expr kind tag _ =>
      rw [members, List.map_append, headMembers, head]
      refine List.nodup_cons.2 ⟨fun hmem => ?_, hzip⟩
      have hkey := (zip_fst_sublist _ _).subset hmem
      simp only [fields, List.map_map, List.mem_map] at hkey
      obtain ⟨f, _, hf⟩ := hkey
      exact f.key_ne_kind hf
  | dataType => exact hzip

theorem heads_members (r : Record) (items : List Json) : r.Heads (r.members items) := by
  cases r with
  | expr kind tag _ => simp [Heads, headMembers, head, members]
  | dataType => simp [Heads, headMembers, head]

theorem place_eq (r : Record) : r.place = .expr ∨ r.place = .dataType := by
  cases r with
  | expr _ _ _ => exact .inl rfl
  | dataType => exact .inr rfl

theorem ne_kind_of_mem {r : Record} (hr : r.place = .expr) {key : String} {p : Place}
    (hkey : (key, p) ∈ r.fields) : key ≠ "kind" := by
  cases r with
  | expr kind tag _ =>
      obtain ⟨f, _, hf⟩ := List.mem_map.1 hkey
      obtain rfl : f.key = key := congrArg Prod.fst hf
      exact f.key_ne_kind
  | dataType => cases hr

theorem exists_mem_of_default? {r : Record} {key : String} {v : Json}
    (h : r.default? key = some v) : ∃ p, (key, p) ∈ r.fields := by
  cases r with
  | expr kind tag _ =>
      obtain ⟨f, hfield, _⟩ := Option.bind_eq_some_iff.1 h
      obtain ⟨hf, rfl⟩ := Kind.field?_eq_some hfield
      exact ⟨f.place, List.mem_map_of_mem hf⟩
  | dataType =>
      rw [default?] at h
      split_ifs at h with hkey
      exact ⟨.other, by simp [fields, hkey]⟩

/-- Objects say of one record only that they are it. -/
theorem eq_of_heads {r r' : Record} {ms : List (String × Json)} (hplace : r.place = r'.place)
    (h : r.Heads ms) (h' : r'.Heads ms) : r = r' := by
  cases r with
  | expr kind tag htag =>
      cases r' with
      | expr kind' tag' htag' =>
          have htags := (h ("kind", tag) (by simp [headMembers, head])).symm.trans
            (h' ("kind", tag') (by simp [headMembers, head]))
          obtain rfl := Option.some.inj htags
          have hkinds := htag.symm.trans htag'
          injection hkinds with hkinds
          subst hkinds
          rfl
      | dataType => cases hplace
  | dataType =>
      cases r' with
      | expr _ _ _ => cases hplace
      | dataType => rfl

/-- The object in which the field at a position stands apart from the others. -/
theorem members_append {r : Record} {before : List Json} {key : String} {p : Place}
    (h : r.fields[before.length]? = some (key, p)) (v : Json) (after : List Json) :
    r.members (before ++ v :: after) =
      (r.headMembers ++ ((r.fields.take before.length).map Prod.fst).zip before) ++
        (key, v) :: ((r.fields.drop (before.length + 1)).map Prod.fst).zip after := by
  obtain ⟨hlt, hget⟩ := List.getElem?_eq_some_iff.1 h
  have hsplit : r.fields = r.fields.take before.length ++
      (key, p) :: r.fields.drop (before.length + 1) := by
    conv_lhs => rw [← List.take_append_drop before.length r.fields, List.drop_eq_getElem_cons hlt,
      hget]
  have hlength : (r.fields.take before.length).length = before.length :=
    List.length_take_of_le (Nat.le_of_lt hlt)
  have hzip : (r.fields.map Prod.fst).zip (before ++ v :: after) =
      ((r.fields.take before.length).map Prod.fst).zip before ++
        (key, v) :: ((r.fields.drop (before.length + 1)).map Prod.fst).zip after := by
    conv_lhs => rw [hsplit, List.map_append, List.zip_append (by simpa using hlength)]
    rfl
  rw [members, hzip, List.append_assoc]

end Record

theorem readAlike_array {r : Record} {items : List Json} (hlow : r.required ≤ items.length)
    (hhigh : items.length ≤ r.fields.length) :
    ReadAlike r.place (.object (r.members items)) (.array (r.head ++ items)) := by
  cases r with
  | expr kind tag htag =>
      rw [Record.fields, List.length_map] at hhigh
      refine ⟨fun nesting => ?_, by simp⟩
      have hmembers : Record.members (.expr kind tag htag) items =
          ("kind", tag) :: kind.members items := by
        rw [Record.members, Record.fields, List.map_map]
        rfl
      have hsame := ofJson_array htag hlow hhigh nesting
      rw [hmembers]
      exact congrArg Except.toOption hsame.symm
  | dataType =>
      exact congrArg Except.toOption (DataType.ofJson_array hlow hhigh).symm

theorem readAlike_of_length {r : Record} {items items' : List Json}
    (hlength : ¬ (r.required ≤ items.length ∧ items.length ≤ r.fields.length))
    (hsame : items.length = items'.length) :
    ReadAlike r.place (.array (r.head ++ items)) (.array (r.head ++ items')) := by
  cases r with
  | expr kind tag htag =>
      rw [Record.fields, List.length_map] at hlength
      refine ⟨fun nesting => ?_, by simp⟩
      have hrefused := toOption_ofJson_array htag hlength nesting
      have hrefused' := toOption_ofJson_array htag (hsame ▸ hlength) nesting
      exact hrefused.trans hrefused'.symm
  | dataType =>
      have hrefused := DataType.toOption_ofJson_array hlength
      have hrefused' := DataType.toOption_ofJson_array (hsame ▸ hlength)
      exact hrefused.trans hrefused'.symm

/-! ## Parts of objects and arrays -/

theorem optionRel_refl {p : Place} (o : Option Json) : Option.Rel (ReadAlike p) o o := by
  cases o with
  | none => exact .none
  | some v => exact .some (.refl p v)

/-- A new member is read alike, if it gives a field that was left out its default. -/
theorem readAlike_cons {p : Place} (hp : p = .expr ∨ p = .dataType) {ms : List (String × Json)}
    {key : String} {v : Json} (hkeys : (ms.map Prod.fst).Nodup) (hnew : key ∉ ms.map Prod.fst)
    (hkind : p = .expr → key ≠ "kind")
    (hfield : ∀ r : Record, r.place = p → r.Heads ms → key ∈ r.fields.map Prod.fst →
      r.default? key = some v) : ReadAlike p (.object ms) (.object ((key, v) :: ms)) := by
  have hkeys' : (((key, v) :: ms).map Prod.fst).Nodup := List.nodup_cons.2 ⟨hnew, hkeys⟩
  refine readAlike_object hp hkeys hkeys' (fun he => ?_) fun r hr hheads f hf => ?_
  · rw [lookup_cons_ne (Ne.symm (hkind he))]
  · by_cases hkey : f.1 = key
    · subst hkey
      have hdefault := hfield r hr hheads (List.mem_map_of_mem hf)
      rw [lookup_eq_none hnew, List.lookup_cons_self, hdefault]
      exact optionRel_refl _
    · rw [lookup_cons_ne hkey]
      exact optionRel_refl _

theorem readAlike_field {r : Record} {before after : List (String × Json)} {key : String}
    {p : Place} {v v' : Json} (hheads : r.Heads (before ++ (key, v) :: after))
    (hkeys : ((before ++ (key, v) :: after).map Prod.fst).Nodup) (hfield : (key, p) ∈ r.fields)
    (h : ReadAlike p v v') :
    ReadAlike r.place (.object (before ++ (key, v) :: after))
      (.object (before ++ (key, v') :: after)) := by
  have hsame : ∀ k, k ≠ key → (before ++ (key, v) :: after).lookup k =
      (before ++ (key, v') :: after).lookup k := by
    intro k hk
    rw [List.lookup_append, List.lookup_append, lookup_cons_ne hk, lookup_cons_ne hk]
  have hkeys' : ((before ++ (key, v') :: after).map Prod.fst).Nodup := by
    rw [List.map_append, List.map_cons] at hkeys ⊢
    exact hkeys
  have hv : (before ++ (key, v) :: after).lookup key = some v :=
    (lookup_eq_some_iff hkeys).2 (by simp)
  have hv' : (before ++ (key, v') :: after).lookup key = some v' :=
    (lookup_eq_some_iff hkeys').2 (by simp)
  refine readAlike_object r.place_eq hkeys hkeys' (fun hr => ?_) fun r' hr' hheads' f hf => ?_
  · exact hsame "kind" (Ne.symm (r.ne_kind_of_mem hr hfield))
  · obtain rfl := Record.eq_of_heads hr' hheads' hheads
    by_cases hkey : f.1 = key
    · obtain rfl : f = (key, p) := List.inj_on_of_nodup_map r'.fields_nodup hf hfield hkey
      rw [hv, hv']
      exact .some h
    · rw [hsame f.1 hkey]
      exact optionRel_refl _

theorem readAlike_item {r : Record} {before after : List Json} {key : String} {p : Place}
    {v v' : Json} (hfield : r.fields[before.length]? = some (key, p)) (h : ReadAlike p v v') :
    ReadAlike r.place (.array (r.head ++ (before ++ v :: after)))
      (.array (r.head ++ (before ++ v' :: after))) := by
  have hsame : (before ++ v :: after).length = (before ++ v' :: after).length := by simp
  by_cases hlength : r.required ≤ (before ++ v :: after).length ∧
      (before ++ v :: after).length ≤ r.fields.length
  · -- the array is read like its object, where the field has a key of its own
    have hheads := r.heads_members (before ++ v :: after)
    have hkeys := r.members_nodup (before ++ v :: after)
    have harray := readAlike_array hlength.1 hlength.2
    have harray' := readAlike_array (hsame ▸ hlength.1) (hsame ▸ hlength.2)
    rw [Record.members_append hfield] at hheads hkeys harray harray'
    exact harray.symm.trans ((readAlike_field hheads hkeys (List.mem_of_getElem? hfield) h).trans
      harray')
  · exact readAlike_of_length hlength hsame

end Expr

end SqlLowering
