import Datatypes.Proofs.Store.Laws
import Datatypes.Store.Hashed

/-! # Stores in a hash table are lawful

The table lists its keys in some order. Sorting hides it: any listing of the same
keys gives the same URIs.
-/

namespace Datatypes

/-- Sorting distinct URIs puts each strictly before the next. -/
theorem ascending_mergeSort {keys : List String} (hnodup : keys.Nodup) :
    (keys.mergeSort fun first second => first ≤ second).Pairwise (· < ·) := by
  have hsorted : (keys.mergeSort fun first second => first ≤ second).Pairwise (· ≤ ·) := by
    refine (List.pairwise_mergeSort ?_ ?_ keys).imp of_decide_eq_true
    · intro a b c hab hbc
      exact decide_eq_true (String.le_trans (of_decide_eq_true hab) (of_decide_eq_true hbc))
    · intro a b
      simpa only [Bool.or_eq_true, decide_eq_true_eq] using String.le_total a b
  have hdistinct : (keys.mergeSort fun first second => first ≤ second).Nodup :=
    (List.mergeSort_perm keys _).nodup_iff.mpr hnodup
  refine hsorted.imp₂ ?_ hdistinct
  intro a b hle hne
  exact Std.lt_of_le_of_ne hle hne

namespace HashedStore

/-- The listing of the keys does not matter. -/
theorem mergeSort_eq_uris_of_perm (store : HashedStore) {keys : List String}
    (hperm : keys.Perm store.entries.keys) :
    (keys.mergeSort fun first second => first ≤ second) = store.uris := by
  apply eq_of_ascending_of_mem_iff
  · exact ascending_mergeSort (hperm.nodup_iff.mpr Std.HashMap.nodup_keys)
  · exact ascending_mergeSort Std.HashMap.nodup_keys
  · intro uri
    rw [uris, List.mem_mergeSort, List.mem_mergeSort, hperm.mem_iff]

theorem not_mem_of_free {store : HashedStore} {uri : String}
    (hfree : Store.get? store uri = none) : uri ∉ store.entries := by
  intro hmem
  have hsome : (store.entries[uri]?).isSome := Std.HashMap.isSome_getElem?_iff_mem.mpr hmem
  change store.entries[uri]? = none at hfree
  rw [hfree] at hsome
  exact Bool.false_ne_true hsome

instance : LawfulStore HashedStore where
  get?_empty _ := Std.HashMap.getElem?_empty
  insert_taken store datatype htaken := by
    have hmem : datatype.uri ∈ store.entries := Std.HashMap.isSome_getElem?_iff_mem.mp htaken
    change HashedStore.insert store datatype = _
    rw [HashedStore.insert, if_pos hmem]
  insert_free store datatype hfree := by
    change (HashedStore.insert store datatype).1 = _
    rw [HashedStore.insert, if_neg (not_mem_of_free hfree)]
  get?_insert store datatype hfree uri := by
    change (HashedStore.insert store datatype).2.entries[uri]? = _
    rw [HashedStore.insert, if_neg (not_mem_of_free hfree), Std.HashMap.getElem?_insert]
    by_cases heq : uri = datatype.uri
    · simp [heq]
    · simp [heq, Ne.symm heq, Store.get?]
  contains_eq store uri := Std.HashMap.contains_eq_isSome_getElem?
  mem_uris store uri := by
    change uri ∈ store.uris ↔ (store.entries[uri]?).isSome
    rw [uris, List.mem_mergeSort, Std.HashMap.mem_keys, Std.HashMap.isSome_getElem?_iff_mem]
  uris_ascending store := ascending_mergeSort Std.HashMap.nodup_keys
  size_eq store := by
    change store.entries.size = store.uris.length
    rw [uris, List.length_mergeSort, Std.HashMap.length_keys]
  isEmpty_eq _ := rfl

end HashedStore

end Datatypes
