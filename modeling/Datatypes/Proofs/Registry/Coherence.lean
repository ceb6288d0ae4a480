import Datatypes.Proofs.Registry.Growth
import Datatypes.Proofs.Store.Hashed

/-! # The views of a registry agree

A registry over a hash table is looked at through a lookup, a membership test, a
sorted list of URIs, a size and a test for emptiness. In every registry that a run
can reach these views tell of the same entries, each of which is filed under the
URI that it was bound to, whatever the offers answered in between.
-/

namespace Datatypes.Registry

/-- The views of a registry and its literals agree with one another. -/
structure Coherent (r : Registry HashedStore) : Prop where
  /-- An entry carries the URI that it is filed under, and the identifier that is derived from
  that URI in the namespace for URLs. -/
  filed : ∀ key d, r.store.entries[key]? = some d →
    d.uri = key ∧ d.id = Identifier.ofName Identifier.urlNamespace key
  contains_iff_get? : ∀ uri, r.contains uri ↔ (r.get? uri).isSome
  contains_iff_mem_uris : ∀ uri, r.contains uri ↔ uri ∈ r.uris
  ascending : r.uris.Pairwise (· < ·)
  nodup : r.uris.Nodup
  /-- The list of URIs does not depend on the order in which the table lists its keys. -/
  uris_of_perm : ∀ keys : List String, keys.Perm r.store.entries.keys →
    (keys.mergeSort fun first second => first ≤ second) = r.uris
  size_eq : r.size = r.uris.length
  isEmpty_iff : r.isEmpty ↔ r.uris = []
  parse_ok : ∀ uri lexicalValue l, (r.parse uri lexicalValue).value = .ok l →
    l.uri = uri ∧ l.lexicalValue = lexicalValue
  parse_illegal : ∀ uri lexicalValue value source,
    (r.parse uri lexicalValue).value = .error (.illegalLexicalValue value source) →
      value = lexicalValue ∧ source = uri

section Views

variable {σ : Type} [Store σ] [EmptyCollection σ] [LawfulStore σ] {r : Registry σ}

theorem contains_eq_isSome_get? (r : Registry σ) (uri : String) :
    r.contains uri = (r.get? uri).isSome :=
  LawfulStore.contains_eq r.store uri

theorem mem_uris_iff (r : Registry σ) (uri : String) : uri ∈ r.uris ↔ (r.get? uri).isSome :=
  LawfulStore.mem_uris r.store uri

theorem uris_empty (settings : Settings) : (⟨∅, settings⟩ : Registry σ).uris = [] := by
  apply List.eq_nil_iff_forall_not_mem.mpr
  intro uri hmem
  have hempty := LawfulStore.get?_empty (σ := σ) uri
  have hsome := (mem_uris_iff _ uri).mp hmem
  rw [get?, hempty] at hsome
  contradiction

theorem isEmpty_iff_uris_eq_nil (r : Registry σ) : r.isEmpty ↔ r.uris = [] := by
  have hempty : r.isEmpty = (r.uris.length == 0) := by
    rw [isEmpty, LawfulStore.isEmpty_eq, LawfulStore.size_eq]
    rfl
  rw [hempty, beq_iff_eq, List.length_eq_zero_iff]

end Views

theorem Filed.uri_of_parse_ok {σ : Type} [Store σ] {r : Registry σ} (hfiled : r.Filed)
    {uri lexicalValue : String} {l : Literal}
    (hparse : (r.parse uri lexicalValue).value = .ok l) :
    l.uri = uri ∧ l.lexicalValue = lexicalValue := by
  obtain ⟨hget, hlexical, _⟩ := get?_of_parse_ok hparse
  exact ⟨hfiled uri l.datatype hget, hlexical⟩

/-- The error of a parse carries the URI that was asked for, because the datatype that
rejects the value is filed under it. -/
theorem Filed.eq_of_parse_illegal {σ : Type} [Store σ] {r : Registry σ} (hfiled : r.Filed)
    {uri lexicalValue value source : String}
    (hparse : (r.parse uri lexicalValue).value = .error (.illegalLexicalValue value source)) :
    value = lexicalValue ∧ source = uri := by
  rw [value_parse] at hparse
  cases hget : r.get? uri with
  | none =>
      rw [hget] at hparse
      cases hparse
  | some d =>
      rw [hget] at hparse
      dsimp only at hparse
      split at hparse
      · contradiction
      · injection hparse with herror
        injection herror with hvalue hsource
        exact ⟨hvalue.symm, hsource.symm.trans (hfiled uri d hget)⟩

theorem Filed.coherent {r : Registry HashedStore} (hfiled : r.Filed) : r.Coherent where
  filed key d hentry := by
    have huri : d.uri = key := hfiled key d hentry
    exact ⟨huri, congrArg (Identifier.ofName Identifier.urlNamespace) huri⟩
  contains_iff_get? uri := by rw [contains_eq_isSome_get?]
  contains_iff_mem_uris uri := by rw [contains_eq_isSome_get?, mem_uris_iff]
  ascending := LawfulStore.uris_ascending r.store
  nodup := (LawfulStore.uris_ascending r.store).imp fun hlt => Std.ne_of_lt hlt
  uris_of_perm _ hperm := r.store.mergeSort_eq_uris_of_perm hperm
  size_eq := LawfulStore.size_eq r.store
  isEmpty_iff := r.isEmpty_iff_uris_eq_nil
  parse_ok _ _ _ hparse := hfiled.uri_of_parse_ok hparse
  parse_illegal _ _ _ _ hparse := hfiled.eq_of_parse_illegal hparse

/-- Every registry that a run reaches from the empty one is coherent. The offers of
the run may give a different URI each time they are asked. -/
theorem coherent_of_run (settings : Settings) (requests : List Request) :
    ((⟨∅, settings⟩ : Registry HashedStore).run requests).2.Coherent :=
  (filed_run settings requests).coherent

end Datatypes.Registry
