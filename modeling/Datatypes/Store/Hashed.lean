import Datatypes.Store
import Std.Data.HashMap

/-! # Stores in a hash table

The table lists its keys in no particular order, so the URIs are sorted each time
they are asked for.
-/

namespace Datatypes

/-- A store in a hash table. -/
structure HashedStore where
  entries : Std.HashMap String Datatype

namespace HashedStore

instance : EmptyCollection HashedStore where
  emptyCollection := ⟨∅⟩

/-- Adds a datatype unless its URI is taken. -/
def insert (store : HashedStore) (datatype : Datatype) :
    Except RegistryError Unit × HashedStore :=
  if datatype.uri ∈ store.entries then
    (.error (.duplicateUri datatype.uri), store)
  else
    (.ok (), ⟨store.entries.insert datatype.uri datatype⟩)

/-- The keys of the table in code point order. -/
def uris (store : HashedStore) : List String :=
  store.entries.keys.mergeSort fun first second => first ≤ second

instance : Store HashedStore where
  insert := insert
  get? store uri := store.entries[uri]?
  contains store uri := store.entries.contains uri
  uris := uris
  size store := store.entries.size

end HashedStore

end Datatypes
