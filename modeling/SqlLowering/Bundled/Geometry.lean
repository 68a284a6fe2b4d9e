import SqlLowering.Bundled.Table

/-!
# Spatial methods

Methods on geometry values, translated to the functions of the spatial extension. The methods that
pick an element of a geometry count from zero and the functions count from one. `Overlaps` has no
entry: calls of it stay as they are.
-/

namespace SqlLowering.Bundled

open ValueType

private def onGeometry (name : String) (params : List ValueType) (form : NativeForm) :
    Signature × NativeForm :=
  (⟨.member, geometry, name, params⟩, form)

def geometryTable : TranslationTable :=
  [ -- predicates
    onGeometry "Covers" [geometry] (.function "ST_Covers"),
    onGeometry "CoveredBy" [geometry] (.function "ST_CoveredBy"),
    onGeometry "Contains" [geometry] (.function "ST_Contains"),
    onGeometry "Within" [geometry] (.function "ST_Within"),
    onGeometry "Intersects" [geometry] (.function "ST_Intersects"),
    onGeometry "Disjoint" [geometry] (.function "ST_Disjoint"),
    onGeometry "Touches" [geometry] (.function "ST_Touches"),
    onGeometry "Crosses" [geometry] (.function "ST_Crosses"),
    onGeometry "EqualsTopologically" [geometry] (.function "ST_Equals"),
    -- measurements
    onGeometry "Distance" [geometry] (.function "ST_Distance"),
    onGeometry "IsWithinDistance" [geometry, float64] (.function "ST_DWithin"),
    onGeometry "Area" [] (.function "ST_Area"),
    onGeometry "Length" [] (.function "ST_Length"),
    -- constructions
    onGeometry "Buffer" [float64] (.function "ST_Buffer"),
    onGeometry "Centroid" [] (.function "ST_Centroid"),
    onGeometry "Union" [geometry] (.function "ST_Union"),
    onGeometry "Intersection" [geometry] (.function "ST_Intersection"),
    onGeometry "Difference" [geometry] (.function "ST_Difference"),
    onGeometry "SymmetricDifference" [geometry] (.function "ST_SymDifference"),
    onGeometry "ConvexHull" [] (.function "ST_ConvexHull"),
    onGeometry "Envelope" [] (.function "ST_Envelope"),
    onGeometry "Boundary" [] (.function "ST_Boundary"),
    onGeometry "Reverse" [] (.function "ST_Reverse"),
    onGeometry "Normalized" [] (.function "ST_Normalize"),
    -- accessors
    onGeometry "AsText" [] (.function "ST_AsText"),
    onGeometry "AsBinary" [] (.function "ST_AsBinary"),
    onGeometry "IsValid" [] (.function "ST_IsValid"),
    onGeometry "IsEmpty" [] (.function "ST_IsEmpty"),
    onGeometry "IsSimple" [] (.function "ST_IsSimple"),
    onGeometry "NumPoints" [] (.function "ST_NPoints"),
    onGeometry "NumGeometries" [] (.function "ST_NumGeometries"),
    onGeometry "Srid" [] (.function "ST_SRID"),
    onGeometry "X" [] (.function "ST_X"),
    onGeometry "Y" [] (.function "ST_Y"),
    onGeometry "GetGeometryN" [int32] (.positional "ST_GeometryN"),
    onGeometry "GetPointN" [int32] (.positional "ST_PointN") ]

def geometryModule : TranslationModule :=
  ⟨"Geometry", "using Geometry", [geometryTable.rule MethodCall.operands]⟩

end SqlLowering.Bundled
