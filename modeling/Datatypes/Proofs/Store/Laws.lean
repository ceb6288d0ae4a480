import Datatypes.Store

/-! # What a store promises

A lawful store is a map from URIs to datatypes that only grows. Looking a URI up
is the one view that insertion is described by; membership, the list of URIs, the
size and emptiness are all determined by it.
-/

namespace Datatypes

/-- The laws of a store. A store that may fail for reasons of its own keeps the
laws of the views but not those of insertion. -/
class LawfulStore (σ : Type) [Store σ] [EmptyCollection σ] : Prop where
  get?_empty (uri : String) : Store.get? (∅ : σ) uri = none
  insert_taken (store : σ) (datatype : Datatype)
      (htaken : (Store.get? store datatype.uri).isSome) :
    Store.insert store datatype = (.error (.duplicateUri datatype.uri), store)
  insert_free (store : σ) (datatype : Datatype)
      (hfree : Store.get? store datatype.uri = none) :
    (Store.insert store datatype).1 = .ok ()
  get?_insert (store : σ) (datatype : Datatype)
      (hfree : Store.get? store datatype.uri = none) (uri : String) :
    Store.get? (Store.insert store datatype).2 uri =
      if uri = datatype.uri then some datatype else Store.get? store uri
  contains_eq (store : σ) (uri : String) :
    Store.contains store uri = (Store.get? store uri).isSome
  mem_uris (store : σ) (uri : String) :
    uri ∈ Store.uris store ↔ (Store.get? store uri).isSome
  uris_ascending (store : σ) : (Store.uris store).Pairwise (· < ·)
  size_eq (store : σ) : Store.size store = (Store.uris store).length
  isEmpty_eq (store : σ) : Store.isEmpty store = (Store.size store == 0)

/-- Two ascending lists of URIs with the same members are the same list. -/
theorem eq_of_ascending_of_mem_iff {first second : List String}
    (hfirst : first.Pairwise (· < ·)) (hsecond : second.Pairwise (· < ·))
    (hmem : ∀ uri, uri ∈ first ↔ uri ∈ second) : first = second := by
  have hperm : first.Perm second := by
    apply (List.perm_ext_iff_of_nodup ?_ ?_).mpr hmem
    · exact hfirst.imp fun hlt => Std.ne_of_lt hlt
    · exact hsecond.imp fun hlt => Std.ne_of_lt hlt
  refine hperm.eq_of_pairwise ?_ hfirst hsecond
  intro a b _ _ hab hba
  exact absurd (Std.lt_trans hab hba) (Std.lt_irrefl)

namespace LawfulStore

variable {σ : Type} [Store σ] [EmptyCollection σ] [LawfulStore σ]

/-- An insertion that fails leaves the store as it was. -/
theorem insert_eq_of_error {store : σ} {datatype : Datatype} {e : RegistryError}
    (herror : (Store.insert store datatype).1 = .error e) :
    Store.insert store datatype = (.error (.duplicateUri datatype.uri), store) := by
  cases hget : Store.get? store datatype.uri with
  | none =>
      rw [insert_free store datatype hget] at herror
      contradiction
  | some taken => exact insert_taken store datatype (by rw [hget]; rfl)

/-- Whatever comes of an insertion, an entry that was there stays. -/
theorem get?_insert_of_some {store : σ} {uri : String} {entry : Datatype}
    (hentry : Store.get? store uri = some entry) (datatype : Datatype) :
    Store.get? (Store.insert store datatype).2 uri = some entry := by
  cases hget : Store.get? store datatype.uri with
  | none =>
      rw [get?_insert store datatype hget, if_neg, hentry]
      intro heq
      rw [heq, hget] at hentry
      contradiction
  | some taken => rw [insert_taken store datatype (by rw [hget]; rfl), hentry]

/-- Inserting a datatype under a free URI adds the URI to those of the store. -/
theorem perm_uris_insert (store : σ) (datatype : Datatype)
    (hfree : Store.get? store datatype.uri = none) :
    (Store.uris (Store.insert store datatype).2).Perm (datatype.uri :: Store.uris store) := by
  -- Both lists are free of duplicates, so it is enough that they have the same members.
  apply (List.perm_ext_iff_of_nodup ?_ ?_).mpr
  · intro uri
    rw [mem_uris, get?_insert store datatype hfree, List.mem_cons, mem_uris]
    split <;> simp_all
  · exact (uris_ascending _).imp fun hlt => Std.ne_of_lt hlt
  · refine List.nodup_cons.mpr ⟨?_, (uris_ascending _).imp fun hlt => Std.ne_of_lt hlt⟩
    rw [mem_uris, hfree]
    exact Bool.false_ne_true

/-- It adds one to the size. -/
theorem size_insert (store : σ) (datatype : Datatype)
    (hfree : Store.get? store datatype.uri = none) :
    Store.size (Store.insert store datatype).2 = Store.size store + 1 := by
  rw [size_eq, size_eq, (perm_uris_insert store datatype hfree).length_eq, List.length_cons]

end LawfulStore

end Datatypes
