import SqlLowering.Codec.Intake

/-!
# Types and constants from text

A value type, a data type or a constant that stands alone, as one text and nothing else but blanks.
It is spelled as inside an expression, but for the value of a choice that has none, which can only
be null.
-/

namespace SqlLowering

open SqlLowering.Codec

def ValueType.parse : String → Except DecodeFailure ValueType :=
  Intake.parse (Intake.choice ValueType.choices)

def Scalar.parse : String → Except DecodeFailure Scalar :=
  Intake.parse (Intake.choice Scalar.choices)

namespace DataType

/-- The fields of a data type, in order. -/
def layout : Layout Fields DataType where
  title := "DataType"
  entries :=
    [ { key := "id"
        required := true
        given := fun f => f.base.isSome
        read := fun f => do
          let t ← Intake.choice ValueType.choices
          return { f with base := some t } },
      { key := "max_length"
        required := false
        given := fun f => f.maxLength.isSome
        read := fun f => do
          let n ← Intake.simple readLength
          return { f with maxLength := some n } } ]
  start := ⟨none, none⟩
  build := Fields.build

def parse : String → Except DecodeFailure DataType :=
  Intake.parse layout.read

end DataType

end SqlLowering
