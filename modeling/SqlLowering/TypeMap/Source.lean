import SqlLowering.TypeMap.FacetCache

/-!
# Store types

A mapping source resolves the store type of a data type. Text without a length and the types that
take no length have fixed descriptors, shared by all sources. Text with a length has one
descriptor for each length in each source, created at the first use. Types that only exist on the
host side have no store type.

A pool is the sources of one process by name. Its identities tell which descriptors are one and the
same object: the shared ones by their value type, the others by their source and their slot there.
-/

namespace SqlLowering

/-- The database name of a type that takes no length. -/
def ValueType.fixedStoreType? : ValueType → Option String
  | .boolean => some "boolean"
  | .int32 => some "integer"
  | .int64 => some "bigint"
  | .float64 => some "double precision"
  | .bytea => some "bytea"
  | .geometry => some "geometry"
  | .ltree => some "ltree"
  | .lquery => some "lquery"
  | .ltxtquery => some "ltxtquery"
  | .null | .text | .collection | .dbFunctions => none

/-- Text of any length. -/
def unboundedText : TypeDescriptor :=
  ⟨.text, "text", none⟩

/-- Text of at most `n` characters. -/
def boundedText (n : UInt32) : TypeDescriptor :=
  ⟨.text, "character varying(" ++ Text.natText n.toNat ++ ")", some n⟩

/-- A resolver of store types, with the descriptors of bounded text it has made so far. -/
structure MappingSource where
  text : FacetCache

namespace MappingSource

def empty : MappingSource :=
  ⟨.empty unboundedText boundedText⟩

/-- Where a descriptor is kept: with the descriptors that all sources share, or in a slot of the
source that made it. -/
inductive Cell where
  | shared (type : ValueType)
  | own (slot : Nat)
deriving DecidableEq, Repr

/-- A resolved store type. -/
structure Mapping where
  cell : Cell
  descriptor : TypeDescriptor
deriving DecidableEq, Repr

/-- The store type of a data type, if the database has one. -/
def findMapping (source : MappingSource) (t : DataType) : Option Mapping × MappingSource :=
  match t.base with
  | .text =>
    let (found, cache) := source.text.getOrCreate t.maxLength
    let cell :=
      match found.place with
      | .default => .shared .text
      | .slot k => .own k
    (some ⟨cell, found.descriptor⟩, ⟨cache⟩)
  | base => (base.fixedStoreType?.map fun name => ⟨.shared base, ⟨base, name, none⟩⟩, source)

end MappingSource

/-! ## Sources by name -/

/-- What tells descriptors of one process apart. -/
inductive DescriptorId where
  | shared (type : ValueType)
  | owned (source : String) (slot : Nat)
deriving DecidableEq, Repr

/-- Mapping sources by name; a name that was not used yet stands for an empty source. -/
structure MappingPool where
  sources : List (String × MappingSource)

namespace MappingPool

def empty : MappingPool :=
  ⟨[]⟩

def get (pool : MappingPool) (name : String) : MappingSource :=
  (pool.sources.lookup name).getD .empty

/-- The list with the source under a name replaced, or added at the end. -/
def putIn (name : String) (source : MappingSource) :
    List (String × MappingSource) → List (String × MappingSource)
  | [] => [(name, source)]
  | (key, old) :: rest =>
    if key = name then (key, source) :: rest else (key, old) :: putIn name source rest

def put (pool : MappingPool) (name : String) (source : MappingSource) : MappingPool :=
  ⟨putIn name source pool.sources⟩

/-- Asks the named source for the store type of a data type. -/
def findMapping (pool : MappingPool) (name : String) (t : DataType) :
    Option (DescriptorId × TypeDescriptor) × MappingPool :=
  let (mapping, source) := (pool.get name).findMapping t
  let identified := mapping.map fun m =>
    match m.cell with
    | .shared type => (.shared type, m.descriptor)
    | .own slot => (.owned name slot, m.descriptor)
  (identified, pool.put name source)

end MappingPool

end SqlLowering
