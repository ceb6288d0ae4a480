import Datatypes.Proofs.Registry.Alike
import Datatypes.Proofs.Store.Hashed
import Datatypes.Proofs.Store.Ordered

/-! # The kind of store does not show

A hash table finds out by a test of its own whether a URI is taken and sorts its keys when it
is asked for them; a search tree looks the URI up and keeps its keys in order. A registry does
the same over either.
-/

namespace Datatypes.Registry

/-- Registries with the same settings are alike as long as they are empty. -/
theorem Alike.empty {σ τ : Type} [Store σ] [Store τ] [EmptyCollection σ] [LawfulStore σ]
    [EmptyCollection τ] [LawfulStore τ] (settings : Settings) :
    (⟨∅, settings⟩ : Registry σ).Alike (⟨∅, settings⟩ : Registry τ) where
  directions := rfl
  get? uri := (LawfulStore.get?_empty uri).trans (LawfulStore.get?_empty uri).symm

/-- Over a hash table and over a search tree every request of a run is answered alike, by the
registry and by its client, and the registries that are reached cannot be told apart. -/
theorem kind_of_store_immaterial (settings : Settings) (requests : List Request) :
    let hashed : Registry HashedStore := ⟨∅, settings⟩
    let ordered : Registry OrderedStore := ⟨∅, settings⟩
    let reached := (hashed.run requests).2
    let reached' := (ordered.run requests).2
    (ordered.run requests).1 = (hashed.run requests).1 ∧
      ((⟨ordered⟩ : Client OrderedStore).run requests).1 =
        ((⟨hashed⟩ : Client HashedStore).run requests).1 ∧
      reached.Indistinguishable reached' ∧
      (∀ uri, reached'.contains uri = reached.contains uri) ∧
      reached'.isEmpty = reached.isEmpty := by
  intro hashed ordered reached reached'
  have hempty : hashed.Alike ordered := .empty settings
  obtain ⟨hanswers, hreached⟩ := hempty.run requests
  exact ⟨hanswers, hempty.indistinguishable.clients requests, hreached.indistinguishable,
    hreached.contains, hreached.isEmpty⟩

end Datatypes.Registry
