import SqlLowering.Codec.Encode
import SqlLowering.Proofs.Decoding
import SqlLowering.Proofs.Documents
import SqlLowering.Proofs.Staging

/-!
# Encoding and decoding

An expression is decoded from its encoding as it was, but for the store types of its casts, which
are not written (`Expr.ofJson_toJson`). As documents this holds of all expressions; as texts it
needs that no floating-point constant is written, for such a number may be written as null, and that
no more containers are open at once than a reader admits (`Expr.parse_render`).
-/

namespace SqlLowering

/-! ## Types and constants -/

theorem ValueType.ofJson_toJson (t : ValueType) : ofJson t.toJson = .ok t := by
  cases t <;> rfl

theorem Origin.ofJson_toJson (o : Origin) : ofJson o.toJson = .ok o := by
  cases o <;> rfl

theorem Codec.readInt32_toInt (n : Int32) : readInt32 (.integer n.toInt) = .ok n := by
  have hlow := n.le_toInt
  have hhigh := n.toInt_lt
  have hrange : -2147483648 ≤ n.toInt ∧ n.toInt ≤ 2147483647 := by omega
  rw [readInt32, readInteger, if_pos hrange]
  simp [Except.map]

theorem Codec.readInt64_toInt (n : Int64) : readInt64 (.integer n.toInt) = .ok n := by
  have hlow := n.le_toInt
  have hhigh := n.toInt_lt
  have hrange : -9223372036854775808 ≤ n.toInt ∧ n.toInt ≤ 9223372036854775807 := by omega
  rw [readInt64, readInteger, if_pos hrange]
  simp [Except.map]

theorem Codec.readUInt32_toNat (n : UInt32) : readUInt32 (.integer n.toNat) = .ok n := by
  have hhigh := n.toNat_lt
  have hrange : (0 : Int) ≤ n.toNat ∧ (n.toNat : Int) ≤ 4294967295 := by omega
  rw [readUInt32, readInteger, if_pos hrange]
  simp [Except.map]

theorem Scalar.ofJson_toJson (x : Scalar) : ofJson x.toJson = .ok x := by
  cases x with
  | null => rfl
  | boolean b => rfl
  | int32 n =>
      show (Codec.readInt32 (.integer n.toInt)).map int32 = .ok (.int32 n)
      rw [Codec.readInt32_toInt]
      rfl
  | int64 n =>
      show (Codec.readInt64 (.integer n.toInt)).map int64 = .ok (.int64 n)
      rw [Codec.readInt64_toInt]
      rfl
  | float64 x => rfl
  | text s => rfl

theorem DataType.ofJson_toJson (t : DataType) : ofJson t.toJson = .ok t := by
  obtain ⟨base, maxLength⟩ := t
  cases maxLength with
  | none =>
      simp [toJson, ofJson, readMembers, ValueType.ofJson_toJson, Except.bind, Fields.build]
  | some n =>
      simp [toJson, ofJson, readMembers, ValueType.ofJson_toJson, Except.bind, Fields.build,
        readLength, Codec.readUInt32_toNat, Except.map]

theorem Scalar.plain_toJson {x : Scalar} (hfloat : ∀ y, x ≠ .float64 y) : x.toJson.Plain := by
  cases x with
  | null => simp [toJson]
  | boolean b => simp [toJson]
  | int32 n =>
      have hlow := n.le_toInt
      have hhigh := n.toInt_lt
      simp only [toJson, Json.plain_object_iff, List.forall_mem_singleton, Json.plain_integer_iff]
      omega
  | int64 n =>
      have hlow := n.le_toInt
      have hhigh := n.toInt_lt
      simp only [toJson, Json.plain_object_iff, List.forall_mem_singleton, Json.plain_integer_iff]
      omega
  | float64 y => exact absurd rfl (hfloat y)
  | text s => simp [toJson]

theorem DataType.plain_toJson (t : DataType) : t.toJson.Plain := by
  obtain ⟨base, maxLength⟩ := t
  cases maxLength with
  | none => simp [toJson, ValueType.toJson]
  | some n =>
      have hhigh := n.toNat_lt
      simp [toJson, ValueType.toJson]
      omega

namespace Expr

/-! ## Expressions -/

variable {kind : Kind} {fields : List (Field × Json)}

theorem lookup_map_key (fields : List (Field × Json)) (f : Field) :
    (fields.map fun m => (m.1.key, m.2)).lookup f.key = fields.lookup f := by
  induction fields with
  | nil => rfl
  | cons m fields ih =>
      obtain ⟨g, v⟩ := m
      by_cases hg : f = g
      · subst hg
        simp
      · have hkey : f.key ≠ g.key := fun h => hg (Field.key_injective h)
        rw [List.map_cons, lookup_cons_ne hkey, ih, List.lookup_cons, beq_false_of_ne hg]

theorem keys_tagged_nodup (hfields : (fields.map Prod.fst).Nodup) (v : Json) :
    ((("kind", v) :: fields.map fun m => (m.1.key, m.2)).map Prod.fst).Nodup := by
  rw [List.map_cons, List.map_map, List.nodup_cons]
  constructor
  · intro hmem
    obtain ⟨m, _, hkey⟩ := List.mem_map.1 hmem
    exact m.1.key_ne_kind hkey
  · have hkeys := hfields.map Field.key_injective
    rw [List.map_map] at hkeys
    exact hkeys

theorem toOption_ofJson_tagged (hfields : (fields.map Prod.fst).Nodup) (nesting : Nesting) :
    (ofJson nesting (tagged kind fields)).toOption =
      Fields.whole? (fun f => f.given? (fields.lookup f)) kind := by
  have htag : Kind.ofJson nesting (.text kind.tag) = .ok kind := by
    cases nesting <;> cases kind <;> rfl
  rw [tagged, toOption_ofJson_object (keys_tagged_nodup hfields _), List.lookup_cons_self]
  simp only [Option.bind_some, htag, toOption_ok]
  congr 1
  funext f
  rw [lookup_cons_ne f.key_ne_kind, lookup_map_key]

theorem exists_toJson_eq_object (e : Expr) : ∃ ms, e.toJson = .object ms := by
  cases e <;> exact ⟨_, by rw [toJson, tagged]⟩

theorem toOption_readList_toJsonList {es : List Expr}
    (h : ∀ x ∈ es, ∀ nesting, (ofJson nesting x.toJson).toOption = some x.unresolved) :
    (readList (.array (toJsonList es))).toOption = some (unresolvedList es) := by
  rw [readList]
  induction es with
  | nil => rfl
  | cons e es ih =>
      have he := h e (List.mem_cons_self ..) .inside
      have hes := ih fun x hx => h x (List.mem_cons_of_mem e hx)
      rw [toJsonList, readElements, toOption_bind, he]
      simp only [Option.bind_eq_bind, Option.bind_some, toOption_bind, hes]
      rfl

/-- An encoded expression is not null, so a receiver that is given is read as one. -/
theorem read?_receiver {e : Expr}
    (h : ∀ nesting, (ofJson nesting e.toJson).toOption = some e.unresolved) :
    Field.receiver.read? e.toJson = some (some e.unresolved) := by
  obtain ⟨ms, hms⟩ := exists_toJson_eq_object e
  have hread := toOption_eq_some.1 (h .inside)
  rw [hms] at hread ⊢
  simp [Field.read?, readField, hread, Except.map]

/-- **An expression is decoded from its encoding**, but for store types. -/
theorem ofJson_toJson (e : Expr) (nesting : Nesting) :
    ofJson nesting e.toJson = .ok e.unresolved := by
  rw [← toOption_eq_some]
  induction e generalizing nesting with
  | column name type =>
      rw [toJson, toOption_ofJson_tagged (by simp)]
      show (do return column name (← (ValueType.ofJson type.toJson).toOption)) = _
      rw [ValueType.ofJson_toJson]
      rfl
  | literal value =>
      rw [toJson, toOption_ofJson_tagged (by simp)]
      show (do return literal (← (Scalar.ofJson value.toJson).toOption)) = _
      rw [Scalar.ofJson_toJson]
      rfl
  | methodCall t m receiver args hreceiver hargs =>
      have hlist := toOption_readList_toJsonList hargs
      cases receiver with
      | none =>
          rw [toJson, toJsonReceiver, toOption_ofJson_tagged (by simp)]
          show (do
            return methodCall (← (ValueType.ofJson t.toJson).toOption) m none
              (← (readList (.array (toJsonList args))).toOption)) = _
          rw [ValueType.ofJson_toJson, hlist]
          rfl
      | some e =>
          rw [toJson, toJsonReceiver, toOption_ofJson_tagged (by simp)]
          show (do
            return methodCall (← (ValueType.ofJson t.toJson).toOption) m
              (← Field.receiver.read? e.toJson)
              (← (readList (.array (toJsonList args))).toOption)) = _
          rw [ValueType.ofJson_toJson, read?_receiver (hreceiver e rfl), hlist]
          rfl
  | function name args hargs =>
      rw [toJson, toOption_ofJson_tagged (by simp)]
      show (do return function name (← (readList (.array (toJsonList args))).toOption)) = _
      rw [toOption_readList_toJsonList hargs]
      rfl
  | binary operator left right hleft hright =>
      rw [toJson, toOption_ofJson_tagged (by simp)]
      show (do
        return binary operator (← (ofJson .inside left.toJson).toOption)
          (← (ofJson .inside right.toJson).toOption)) = _
      rw [hleft, hright]
      rfl
  | cast target storeType operand hoperand =>
      rw [toJson, toOption_ofJson_tagged (by simp)]
      show (do
        return cast (← (DataType.ofJson target.toJson).toOption) none
          (← (ofJson .inside operand.toJson).toOption)) = _
      rw [DataType.ofJson_toJson, hoperand]
      rfl
  | index array subscripts origin harray hsubscripts =>
      rw [toJson, toOption_ofJson_tagged (by simp)]
      show (do
        return index (← (ofJson .inside array.toJson).toOption)
          (← (readList (.array (toJsonList subscripts))).toOption)
          (← (Origin.ofJson origin.toJson).toOption)) = _
      rw [harray, toOption_readList_toJsonList hsubscripts, Origin.ofJson_toJson]
      rfl

/-! ## Texts -/

@[simp]
theorem plain_tagged_iff : (tagged kind fields).Plain ↔ ∀ f ∈ fields, f.2.Plain := by
  rw [tagged, Json.plain_object_iff, List.forall_mem_cons, List.forall_mem_map]
  simp

theorem plain_toJsonList {es : List Expr} (h : ∀ e ∈ es, e.toJson.Plain) :
    ∀ v ∈ toJsonList es, v.Plain := by
  induction es with
  | nil => simp [toJsonList]
  | cons e es ih =>
      rw [toJsonList, List.forall_mem_cons]
      exact ⟨h e (List.mem_cons_self ..), ih fun x hx => h x (List.mem_cons_of_mem e hx)⟩

/-- Without floating-point constants, only texts, booleans and numbers with a 64-bit form are
written. -/
theorem plain_toJson {e : Expr} (hfloat : ∀ x, ¬ (literal (.float64 x)).NodeOf e) :
    e.toJson.Plain := by
  induction e using induct_children with
  | h e ih =>
      have hchildren : ∀ child ∈ e.children, child.toJson.Plain := fun child hchild =>
        ih child hchild fun x hx => hfloat x (.inside hchild hx)
      cases e with
      | column name type => simp [toJson, ValueType.toJson]
      | literal value =>
          have hvalue : value.toJson.Plain := Scalar.plain_toJson fun y hy =>
            hfloat y (hy ▸ .root)
          simp [toJson, hvalue]
      | methodCall t m receiver args =>
          have hargs := plain_toJsonList fun x hx => hchildren x (List.mem_append_right _ hx)
          cases receiver with
          | none => simpa [toJson, toJsonReceiver, ValueType.toJson] using hargs
          | some e =>
              have he := hchildren e (by simp [children])
              simpa [toJson, toJsonReceiver, ValueType.toJson, he] using hargs
      | function name args => simpa [toJson, children] using plain_toJsonList hchildren
      | binary operator left right =>
          have hleft := hchildren left (by simp [children])
          have hright := hchildren right (by simp [children])
          simp [toJson, hleft, hright]
      | cast target storeType operand =>
          have hoperand := hchildren operand (by simp [children])
          simp [toJson, target.plain_toJson, hoperand]
      | index array subscripts origin =>
          have harray := hchildren array (by simp [children])
          have hsubscripts := plain_toJsonList fun x hx => hchildren x (List.mem_cons_of_mem _ hx)
          simpa [toJson, Origin.toJson, harray] using hsubscripts

/-- **Encoding and decoding.** An expression in which no floating-point number occurs is read back
from its encoding without the store types of its casts, if the encoding does not open more
containers at once than the reader admits. So no two such expressions have the same encoding, store
types apart. -/
theorem parse_render {e : Expr} (hfloat : ∀ x, ¬ (literal (.float64 x)).NodeOf e)
    (hdepth : e.toJson.depth ≤ Json.depthLimit) :
    parse e.toJson.render = .ok e.unresolved ∧
      ∀ e' : Expr, (∀ x, ¬ (literal (.float64 x)).NodeOf e') → e'.toJson.depth ≤ Json.depthLimit →
        e'.toJson.render = e.toJson.render → e'.unresolved = e.unresolved := by
  have hread : ∀ e : Expr, (∀ x, ¬ (literal (.float64 x)).NodeOf e) →
      e.toJson.depth ≤ Json.depthLimit → parse e.toJson.render = .ok e.unresolved := by
    intro e hfloat hdepth
    have hdocument := Json.parse?_render (plain_toJson hfloat) hdepth
    rw [parse_eq_ok_iff hdocument]
    exact ofJson_toJson e .outermost
  refine ⟨hread e hfloat hdepth, fun e' hfloat' hdepth' hsame => ?_⟩
  have heq := (hread e' hfloat' hdepth').symm.trans (hsame ▸ hread e hfloat hdepth)
  injection heq

/-- A cast that has been resolved, of a call without a receiver and with the largest constant. -/
theorem parse_render_resolvedCast :
    parse (cast ⟨.text, some 20⟩ (some ⟨.text, "character varying(20)", some 20⟩)
      (methodCall .dbFunctions "F" none [literal (.int64 Int64.maxValue)])).toJson.render =
    .ok (cast ⟨.text, some 20⟩ none
      (methodCall .dbFunctions "F" none [literal (.int64 Int64.maxValue)])) := by
  refine (parse_render ?_ (by decide)).1
  intro x hx
  rcases hx with _ | ⟨hchild, hx⟩
  simp only [children, List.mem_singleton] at hchild
  subst hchild
  rcases hx with _ | ⟨hchild, hx⟩
  simp only [children, Option.toList_none, List.nil_append, List.mem_singleton] at hchild
  subst hchild
  rcases hx with _ | ⟨hchild, hx⟩
  cases hchild

end Expr

end SqlLowering
