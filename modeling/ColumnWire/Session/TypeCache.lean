import ColumnWire.Cell.Descriptor
import ColumnWire.Session.LruMap

/-!
# Type cache

The types of the descriptors that were looked up last. A descriptor that is looked up moves to the
front; when there are too many, the last one goes. What is no type is not kept.
-/

namespace ColumnWire.Session

open ColumnWire.Cell

/-- Types by their descriptors, in a map of bounded size. -/
structure TypeCache (L : LruMap String ColumnType := .ofList) where
  /-- The types that are kept. -/
  cache : L.Map
  /-- How often a descriptor was found. -/
  hits : UInt64 := 0
  /-- How often a descriptor had to be parsed. -/
  misses : UInt64 := 0

namespace TypeCache

/-- The capacity when none is given. -/
def defaultCapacity : Nat := 64

variable {L : LruMap String ColumnType}

/-- An empty cache; it has room for one type at least. -/
def new (capacity : Nat) : TypeCache L :=
  { cache := L.empty (max capacity 1) }

/-- The number of types. -/
def length (c : TypeCache L) : Nat :=
  L.length c.cache

/-- The greatest number of types. -/
def capacity (c : TypeCache L) : Nat :=
  L.capacity c.cache

/-- The type of a descriptor, from the cache if it is there. -/
def get (c : TypeCache L) (descriptor : String) : Except TypeError ColumnType × TypeCache L :=
  match L.get descriptor c.cache with
  | (some t, cache) => (.ok t, { c with cache, hits := c.hits + 1 })
  | (none, cache) =>
    let missed := { c with cache, misses := c.misses + 1 }
    match ColumnType.parse descriptor with
    | .error e => (.error e, missed)
    | .ok t => (.ok t, { missed with cache := L.put descriptor t cache })

/-- The cache without its types; what was counted stays. -/
def clear (c : TypeCache L) : TypeCache L :=
  { c with cache := L.clear c.cache }

/-- The developers' text. -/
def inspect (c : TypeCache L) : String :=
  "TypeCache \x7b len: " ++ toString c.length ++ ", capacity: " ++ toString c.capacity ++
    ", hits: " ++ toString c.hits ++ ", misses: " ++ toString c.misses ++ " \x7d"

end TypeCache

end ColumnWire.Session
