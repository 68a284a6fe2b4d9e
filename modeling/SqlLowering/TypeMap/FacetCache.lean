import SqlLowering.TypeMap.Descriptor

/-!
# Descriptors by facet

A cache of descriptors keyed by a facet, such as a length. The descriptor of a facet is created when
the facet is first asked for and kept for ever, in a slot of its own. Asking without a facet gives
the default descriptor, which is not an entry.

Where a descriptor was found tells two descriptors of equal contents apart: what is found in the
same place is the same shared descriptor.
-/

namespace SqlLowering

structure FacetCache where
  /-- The descriptor for no facet. -/
  default : TypeDescriptor
  create : UInt32 → TypeDescriptor
  /-- The facets asked for so far and their descriptors, in the order of their first use. -/
  entries : List (UInt32 × TypeDescriptor)

namespace FacetCache

/-- Where a cache keeps a descriptor. -/
inductive Place where
  | default
  | slot (index : Nat)
deriving DecidableEq, Repr

/-- A descriptor and where it is kept. -/
structure Found where
  place : Place
  descriptor : TypeDescriptor
deriving DecidableEq, Repr

def empty (default : TypeDescriptor) (create : UInt32 → TypeDescriptor) : FacetCache :=
  ⟨default, create, []⟩

/-- The slot of a facet among entries that start at slot `start`. -/
def findFrom (facet : UInt32) (start : Nat) : List (UInt32 × TypeDescriptor) → Option Found
  | [] => none
  | (key, descriptor) :: rest =>
    if key = facet then some ⟨.slot start, descriptor⟩ else findFrom facet (start + 1) rest

/-- The entry of a facet, if there is one. -/
def find? (cache : FacetCache) (facet : UInt32) : Option Found :=
  findFrom facet 0 cache.entries

/-- The descriptor for a facet, creating its entry at the first use. -/
def getOrCreate (cache : FacetCache) : Option UInt32 → Found × FacetCache
  | none => (⟨.default, cache.default⟩, cache)
  | some facet =>
    match cache.find? facet with
    | some found => (found, cache)
    | none =>
      let created := cache.create facet
      (⟨.slot cache.entries.length, created⟩,
        { cache with entries := cache.entries ++ [(facet, created)] })

/-- The number of entries, the default not counted. -/
def size (cache : FacetCache) : Nat :=
  cache.entries.length

def isEmpty (cache : FacetCache) : Bool :=
  cache.entries.isEmpty

/-- The number of entries and the default, as diagnostics show a cache. -/
def summary (cache : FacetCache) : String :=
  "FacetedTypeMappingCache \x7b entries: " ++ Text.natText cache.size ++ ", default: " ++
    cache.default.summary ++ ", .. \x7d"

end FacetCache

end SqlLowering
