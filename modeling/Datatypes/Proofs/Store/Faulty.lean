import Datatypes.Proofs.Store.Laws
import Datatypes.Store.Faulty

/-! # Insertions into a store that fails now and then -/

namespace Datatypes.FaultyStore

variable {σ : Type} [Store σ]

/-- An attempt that fails is an internal error, and only counts. -/
theorem insert_of_fault {store : FaultyStore σ} {message : String}
    (hfault : store.fault? store.attempts = some message) (datatype : Datatype) :
    Store.insert store datatype =
      (.error (.internal message), { store with attempts := store.attempts + 1 }) := by
  change FaultyStore.insert store datatype = _
  simp only [FaultyStore.insert, hfault]

/-- Any other attempt is the inner store's affair. -/
theorem insert_of_no_fault {store : FaultyStore σ}
    (hfault : store.fault? store.attempts = none) (datatype : Datatype) :
    Store.insert store datatype =
      ((Store.insert store.inner datatype).1,
        { store with
          inner := (Store.insert store.inner datatype).2
          attempts := store.attempts + 1 }) := by
  change FaultyStore.insert store datatype = _
  simp only [FaultyStore.insert, hfault]

/-- An insertion that succeeds is one into the inner store. -/
theorem inner_insert_of_ok {store : FaultyStore σ} {datatype : Datatype}
    (hok : (Store.insert store datatype).1 = .ok ()) :
    Store.insert store.inner datatype = (.ok (), (Store.insert store datatype).2.inner) := by
  cases hfault : store.fault? store.attempts with
  | none =>
      rw [insert_of_no_fault hfault] at hok ⊢
      exact Prod.ext hok rfl
  | some message =>
      rw [insert_of_fault hfault] at hok
      contradiction

/-- An insertion that fails, for whatever reason, stores nothing. -/
theorem inner_insert_of_error [EmptyCollection σ] [LawfulStore σ] {store : FaultyStore σ}
    {datatype : Datatype} {e : RegistryError}
    (herror : (Store.insert store datatype).1 = .error e) :
    (Store.insert store datatype).2.inner = store.inner := by
  cases hfault : store.fault? store.attempts with
  | none =>
      rw [insert_of_no_fault hfault] at herror ⊢
      rw [LawfulStore.insert_eq_of_error herror]
  | some message => rw [insert_of_fault hfault]

end Datatypes.FaultyStore
