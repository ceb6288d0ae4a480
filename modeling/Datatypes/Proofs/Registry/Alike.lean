import Datatypes.Proofs.Registry.Clients
import Datatypes.Proofs.Registry.Coherence
import Datatypes.Proofs.Registry.Locality
import Datatypes.Proofs.Registry.Parallel

/-! # Registries that cannot be told apart

Two registries over lawful stores of any kind that compare literals in the same directions and
hold the same datatypes do the same with every request, and are left holding the same. So no
sequence of requests, however long, shows a difference.
-/

namespace Datatypes.Registry

open Recorded

variable {σ τ : Type} [Store σ] [Store τ]

/-- The registries compare literals in the same directions and hold the same datatypes. -/
structure Alike (r : Registry σ) (r' : Registry τ) : Prop where
  directions : r'.settings.bidirectionalEquality = r.settings.bidirectionalEquality
  get? : ∀ uri, r'.get? uri = r.get? uri

/-! ## Steps and runs -/

section Lawful

variable [EmptyCollection σ] [LawfulStore σ] [EmptyCollection τ] [LawfulStore τ]

namespace Alike

variable {r : Registry σ} {r' : Registry τ}

theorem contains (halike : r.Alike r') (uri : String) : r'.contains uri = r.contains uri := by
  rw [contains_eq_isSome_get?, contains_eq_isSome_get?, halike.get?]

/-- Each store may keep its URIs in an order of its own. -/
theorem uris (halike : r.Alike r') : r'.uris = r.uris := by
  apply eq_of_ascending_of_mem_iff
  · exact LawfulStore.uris_ascending r'.store
  · exact LawfulStore.uris_ascending r.store
  · intro uri
    rw [mem_uris_iff, mem_uris_iff, halike.get?]

theorem size (halike : r.Alike r') : r'.size = r.size := by
  have hlength : r'.uris.length = r.uris.length := congrArg List.length halike.uris
  rw [Registry.size, Registry.size, LawfulStore.size_eq, LawfulStore.size_eq]
  exact hlength

theorem isEmpty (halike : r.Alike r') : r'.isEmpty = r.isEmpty := by
  rw [Bool.eq_iff_iff, isEmpty_iff_uris_eq_nil, isEmpty_iff_uris_eq_nil, halike.uris]

theorem insert (halike : r.Alike r') (d : Datatype) :
    Parallel Alike (r.insert d) (r'.insert d) := by
  cases hget : r.get? d.uri with
  | some taken =>
      have htaken : r'.get? d.uri = some taken := (halike.get? d.uri).trans hget
      rw [insert_taken hget, insert_taken htaken]
      exact ⟨rfl, rfl, halike⟩
  | none =>
      have hfree : r'.get? d.uri = none := (halike.get? d.uri).trans hget
      rw [insert_free hget, insert_free hfree]
      refine ⟨rfl, rfl, ?_, ?_⟩
      · simp only [value_bind, value_pure, settings_propose, halike.directions]
      · intro uri
        simp only [value_bind, value_pure, get?_propose_free hget, get?_propose_free hfree,
          halike.get?]

theorem step (halike : r.Alike r') (request : Request) :
    Parallel Alike (r.step request) (r'.step request) := by
  have hinsert : ∀ (s : Registry σ) (s' : Registry τ) (d : Datatype), s.Alike s' →
      Parallel Alike (s.insert d) (s'.insert d) := fun _ _ d hs => hs.insert d
  cases hnamed : request.named? with
  | some uris =>
      have hanswer := answer_congr_of_directions halike.directions hnamed fun uri _ =>
        halike.get? uri
      refine ⟨congrArg Recorded.value hanswer, congrArg Recorded.journal hanswer, ?_⟩
      rw [registry_step_of_named hnamed, registry_step_of_named hnamed]
      exact halike
  | none =>
      cases request with
      | register offer => exact (parallel_register hinsert halike offer).map _
      | define definition? => exact (parallel_define hinsert halike definition?).map _
      | registerBatch offers => exact (parallel_registerBatch hinsert halike offers).map _
      | get uri => exact ⟨congrArg Answer.lookup (halike.get? uri), rfl, halike⟩
      | uris => exact ⟨congrArg Answer.uris halike.uris, rfl, halike⟩
      | contains uri => exact ⟨congrArg Answer.truth (halike.contains uri), rfl, halike⟩
      | size => exact ⟨congrArg Answer.size halike.size, rfl, halike⟩
      | isEmpty => exact ⟨congrArg Answer.truth halike.isEmpty, rfl, halike⟩
      | parse _ _ | isValid _ _ | accepts _ _ | equal _ _ | canonicalise _ => contradiction

theorem run (halike : r.Alike r') (requests : List Request) :
    (r'.run requests).1 = (r.run requests).1 ∧
      (r.run requests).2.Alike (r'.run requests).2 := by
  induction requests generalizing r r' with
  | nil => exact ⟨rfl, halike⟩
  | cons request rest ih =>
      have hstep := halike.step request
      obtain ⟨hanswers, hlast⟩ := ih hstep.related
      have hanswer : r'.answer request = r.answer request := by
        rw [Registry.answer, Registry.answer, hstep.result, hstep.journal]
      exact ⟨congr (congrArg List.cons hanswer) hanswers, hlast⟩

end Alike

end Lawful

/-- What users see of the two registries is the same, now and after any further requests. -/
structure Indistinguishable (r : Registry σ) (r' : Registry τ) : Prop where
  get? : ∀ uri, r'.get? uri = r.get? uri
  uris : r'.uris = r.uris
  size : r'.size = r.size
  /-- Every request of a later sequence is answered alike, and on record alike. -/
  answers : ∀ requests, (r'.run requests).1 = (r.run requests).1
  clients : ∀ requests,
    ((⟨r'⟩ : Client τ).run requests).1 = ((⟨r⟩ : Client σ).run requests).1

theorem Alike.indistinguishable [EmptyCollection σ] [LawfulStore σ] [EmptyCollection τ]
    [LawfulStore τ] {r : Registry σ} {r' : Registry τ} (halike : r.Alike r') :
    r.Indistinguishable r' where
  get? := halike.get?
  uris := halike.uris
  size := halike.size
  answers requests := (halike.run requests).1
  clients requests := by
    rw [Client.run_eq, Client.run_eq, (halike.run requests).1]

end Datatypes.Registry
