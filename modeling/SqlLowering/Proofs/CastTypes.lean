import SqlLowering.Proofs.StoreType
import SqlLowering.Translation.Lowering

/-!
# The store type of a cast

A cast to text is bounded by its own length, if that is positive, or else by the default length of
the configuration; no other cast has a length. `Config.castLength?` and `Config.castStoreName?` say
this without the data type that lowering asks the mapping source for, and
`Config.storeType?_castTarget` says that the source answers it.
-/

namespace SqlLowering

theorem DataType.storeType?_of_ne_text {base : ValueType} (h : base ≠ .text)
    (maxLength : Option UInt32) : (DataType.mk base maxLength).storeType? =
      base.fixedStoreType?.map fun name => ⟨base, name, none⟩ := by
  cases base
  case text => exact absurd rfl h
  all_goals rfl

namespace Config

/-- The length of a cast to text: its own if it is positive, or else the default one. -/
def castLength? (config : Config) (target : DataType) : Option UInt32 :=
  if target.base = .text then
    match target.maxLength with
    | some n => if 0 < n then some n else config.defaultStringLength
    | none => config.defaultStringLength
  else none

def castStoreName? (config : Config) (target : DataType) : Option String :=
  if target.base = .text then
    match config.castLength? target with
    | some n => some ("character varying(" ++ Text.natText n.toNat ++ ")")
    | none => some "text"
  else target.base.fixedStoreType?

def castDescriptor? (config : Config) (target : DataType) : Option TypeDescriptor :=
  (config.castStoreName? target).map fun name => ⟨target.base, name, config.castLength? target⟩

variable (config : Config) (target : DataType)

theorem base_castTarget : (config.castTarget target).base = target.base := by
  unfold castTarget
  split <;> rfl

theorem maxLength_castTarget (h : target.base = .text) :
    (config.castTarget target).maxLength = config.castLength? target := by
  unfold castTarget castLength?
  rw [if_pos h, if_pos h]
  cases hn : target.maxLength with
  | none => rfl
  | some n =>
      change (Option.filter _ (some n) <|> _) = _
      rw [Option.filter_some]
      by_cases hpos : 0 < n
      · simp [hpos]
      · simp [hpos]

theorem storeType?_castLength :
    (DataType.mk target.base (config.castLength? target)).storeType? =
      config.castDescriptor? target := by
  unfold castDescriptor? castStoreName?
  by_cases htext : target.base = .text
  · rw [if_pos htext, htext]
    cases config.castLength? target <;> rfl
  · rw [if_neg htext, DataType.storeType?_of_ne_text htext, castLength?, if_neg htext]

/-- **Every source gives a cast the store type of its length.** -/
theorem storeType?_castTarget :
    (config.castTarget target).storeType? = config.castDescriptor? target := by
  rw [← storeType?_castLength]
  by_cases htext : target.base = .text
  · rw [← maxLength_castTarget config target htext, ← base_castTarget]
  · obtain ⟨base, maxLength⟩ := target
    rw [castTarget, if_neg htext, DataType.storeType?_of_ne_text htext,
      DataType.storeType?_of_ne_text htext]

end Config

end SqlLowering
