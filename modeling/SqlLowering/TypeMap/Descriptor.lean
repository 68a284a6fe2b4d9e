import SqlLowering.Text.Escaped
import SqlLowering.ValueType

/-!
# Type descriptors

A descriptor says how the database stores a value type: the name of the store type and its size, if
it has one.
-/

namespace SqlLowering

structure TypeDescriptor where
  valueType : ValueType
  /-- The name of the database type, with its length. -/
  storeType : String
  size : Option UInt32
deriving DecidableEq, Repr, Inhabited

/-- The fields of a descriptor by name, as the summary of a cache shows them. -/
def TypeDescriptor.summary (d : TypeDescriptor) : String :=
  let size :=
    match d.size with
    | none => "None"
    | some n => "Some(" ++ Text.natText n.toNat ++ ")"
  "TypeDescriptor \x7b value_type: " ++ d.valueType.title ++ ", store_type: " ++
    Text.escaped d.storeType ++ ", size: " ++ size ++ " \x7d"

end SqlLowering
