import Datatypes.Store
import Std.Data.TreeMap

/-! # Stores in a search tree

The tree keeps its keys in code point order, so the URIs need no sorting. Whether
a URI is taken is found out by looking it up.
-/

namespace Datatypes

/-- A store in a search tree. -/
structure OrderedStore where
  entries : Std.TreeMap String Datatype

namespace OrderedStore

instance : EmptyCollection OrderedStore where
  emptyCollection := ⟨∅⟩

/-- Adds a datatype unless its URI is taken. -/
def insert (store : OrderedStore) (datatype : Datatype) :
    Except RegistryError Unit × OrderedStore :=
  match store.entries[datatype.uri]? with
  | some _ => (.error (.duplicateUri datatype.uri), store)
  | none => (.ok (), ⟨store.entries.insert datatype.uri datatype⟩)

instance : Store OrderedStore where
  insert := insert
  get? store uri := store.entries[uri]?
  uris store := store.entries.keys
  size store := store.entries.size

end OrderedStore

end Datatypes
