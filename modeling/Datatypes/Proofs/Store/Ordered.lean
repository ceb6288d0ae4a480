import Datatypes.Proofs.Store.Laws
import Datatypes.Store.Ordered

/-! # Stores in a search tree are lawful

The tree lists its keys as it keeps them. Strings are compared by their code points, so the
listing is in the order in which URIs are asked for.
-/

namespace Datatypes

namespace OrderedStore

theorem lt_of_compare_eq_lt {first second : String} (hlt : compare first second = .lt) :
    first < second :=
  compareOfLessAndEq_eq_lt.mp hlt

theorem insert_of_taken {store : OrderedStore} {datatype taken : Datatype}
    (htaken : store.entries[datatype.uri]? = some taken) :
    store.insert datatype = (.error (.duplicateUri datatype.uri), store) := by
  rw [OrderedStore.insert, htaken]

theorem insert_of_free {store : OrderedStore} {datatype : Datatype}
    (hfree : store.entries[datatype.uri]? = none) :
    store.insert datatype = (.ok (), ⟨store.entries.insert datatype.uri datatype⟩) := by
  rw [OrderedStore.insert, hfree]

instance : LawfulStore OrderedStore where
  get?_empty _ := Std.TreeMap.getElem?_emptyc
  insert_taken store datatype htaken := by
    obtain ⟨taken, hget⟩ := Option.isSome_iff_exists.mp htaken
    exact insert_of_taken hget
  insert_free store datatype hfree := congrArg Prod.fst (insert_of_free hfree)
  get?_insert store datatype hfree uri := by
    change (store.insert datatype).2.entries[uri]? = _
    rw [insert_of_free hfree, Std.TreeMap.getElem?_insert]
    by_cases heq : uri = datatype.uri
    · simp [heq]
    · simp [heq, Ne.symm heq, Store.get?]
  contains_eq _ _ := rfl
  mem_uris store uri := by
    change uri ∈ store.entries.keys ↔ (store.entries[uri]?).isSome
    rw [Std.TreeMap.mem_keys, Std.TreeMap.isSome_getElem?_iff_mem]
  uris_ascending store := Std.TreeMap.ordered_keys.imp lt_of_compare_eq_lt
  size_eq store := Std.TreeMap.length_keys.symm
  isEmpty_eq _ := rfl

end OrderedStore

end Datatypes
