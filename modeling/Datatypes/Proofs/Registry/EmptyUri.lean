import Datatypes.Builtin
import Datatypes.Proofs.Registry.Coherence

/-! # The empty URI

An offer is turned away if its URI is empty when it is checked, and it is bound to the
URI that it gives next. So a datatype comes to stand under the empty URI exactly if an
offer has lapsed in between. A definition does not lapse, and neither does an offer that
always gives the same URI.
-/

namespace Datatypes

/-- The offer gives a URI when it is checked, and the empty one when it is bound. -/
def Offer.Lapses (offer : Offer) : Prop :=
  offer.uri ≠ "" ∧ offer.next.uri = ""

theorem Offer.Stable.not_lapses {offer : Offer} (hstable : offer.Stable) : ¬ offer.Lapses := by
  rintro ⟨hchecked, hbound⟩
  have hsame : offer.next.uri = offer.uri := hstable 1
  exact hchecked (hsame.symm.trans hbound)

theorem Offer.lapses_iff_candidate (offer : Offer) :
    offer.Lapses ↔ offer.candidate.map Datatype.uri = .ok "" := by
  unfold candidate
  split
  next hempty => simp [Lapses, hempty, Except.map]
  next hchecked => simp [Lapses, hchecked, Except.map]

/-- The URI of a complete definition is not empty, and it is the same each time. -/
theorem Definition.candidate_ne_empty (definition? : Option Definition) :
    (Definition.candidate definition?).map Datatype.uri ≠ .ok "" := by
  unfold candidate
  cases definition? with
  | none => exact nofun
  | some definition =>
      dsimp only
      cases definition.complete with
      | error e => exact nofun
      | ok complete =>
          rw [Ne, ← Offer.lapses_iff_candidate]
          exact (Offer.Stable.fixed complete.uri complete.descriptor).not_lapses

/-- The offers of a request, as they are when they are checked. One that comes in a batch
has been asked for its URI once by then. -/
def Request.checked : Request → List Offer
  | .register offer => [offer]
  | .registerBatch offers => offers.map Offer.next
  | _ => []

/-- A request proposes a datatype under the empty URI exactly if one of its offers lapses. -/
theorem Request.exists_lapses_iff (request : Request) :
    (∃ offer ∈ request.checked, offer.Lapses) ↔
      ∃ candidate ∈ request.candidates, candidate.map Datatype.uri = .ok "" := by
  cases request with
  | register offer => simp [candidates, checked, Offer.lapses_iff_candidate]
  | define definition? => simp [candidates, checked, Definition.candidate_ne_empty]
  | registerBatch offers =>
      simp only [candidates, checked, List.mem_map, Offer.lapses_iff_candidate]
      constructor
      · rintro ⟨_, ⟨offer, hoffer, rfl⟩, hempty⟩
        exact ⟨offer.next.candidate, ⟨offer, hoffer, rfl⟩, hempty⟩
      · rintro ⟨_, ⟨offer, hoffer, rfl⟩, hempty⟩
        exact ⟨offer.next, ⟨offer, hoffer, rfl⟩, hempty⟩
  | get _ | parse _ _ | isValid _ _ | accepts _ _ | equal _ _ | canonicalise _ | uris
  | contains _ | size | isEmpty => simp [candidates, checked]

namespace Registry

/-- A run brings in a datatype under the empty URI exactly if one of the offers lapses that
come up in it. -/
theorem isSome_get?_empty_run_iff {σ : Type} [Store σ] [EmptyCollection σ] [LawfulStore σ]
    (settings : Settings) (requests : List Request) :
    (((⟨∅, settings⟩ : Registry σ).run requests).2.get? "").isSome ↔
      ∃ request ∈ requests, ∃ offer ∈ request.checked, offer.Lapses := by
  have hnone : (⟨∅, settings⟩ : Registry σ).get? "" = none := LawfulStore.get?_empty ""
  rw [isSome_get?_run_iff, hnone]
  simp only [Request.exists_lapses_iff, Option.isSome_none, Bool.false_eq_true, false_or]

/-- The views of a registry agree on whether there is a datatype under the empty URI: there
is one exactly if the run has met an offer that lapses. -/
theorem empty_uri_taken_iff_lapse (settings : Settings) (requests : List Request) :
    let r := ((⟨∅, settings⟩ : Registry HashedStore).run requests).2
    let lapse := ∃ request ∈ requests, ∃ offer ∈ request.checked, offer.Lapses
    ((r.get? "").isSome ↔ lapse) ∧ (r.contains "" ↔ lapse) ∧ ("" ∈ r.uris ↔ lapse) := by
  intro r lapse
  have htaken : (r.get? "").isSome ↔ lapse := isSome_get?_empty_run_iff settings requests
  refine ⟨htaken, ?_, ?_⟩
  · rw [contains_eq_isSome_get?]
    exact htaken
  · rw [mem_uris_iff]
    exact htaken

/-- Offers that always give the same URI leave the empty one free. -/
theorem get?_empty_of_stable {σ : Type} [Store σ] [EmptyCollection σ] [LawfulStore σ]
    (settings : Settings) {requests : List Request}
    (hstable : ∀ request ∈ requests, ∀ offer ∈ request.checked, offer.Stable) :
    ((⟨∅, settings⟩ : Registry σ).run requests).2.get? "" = none := by
  rw [← Option.not_isSome_iff_eq_none, isSome_get?_empty_run_iff]
  rintro ⟨request, hrequest, offer, hoffer, hlapses⟩
  exact (hstable request hrequest offer hoffer).not_lapses hlapses

/-- An offer that gives a URI once, and the empty one from then on, passes the check and is
registered under the empty URI. -/
theorem empty_uri_taken_by_lapse :
    let offer := Offer.ofList "urn:a" [""] Builtin.xsdStringDescriptor
    let r := ((⟨∅, {}⟩ : Registry HashedStore).run [.register offer]).2
    (r.get? "").isSome ∧ r.contains "" ∧ "" ∈ r.uris := by
  intro offer r
  have htaken : (r.get? "").isSome := by
    rw [isSome_get?_empty_run_iff]
    refine ⟨.register offer, List.mem_singleton_self _, offer, List.mem_singleton_self _, ?_, rfl⟩
    exact (by decide : "urn:a" ≠ "")
  rw [contains_eq_isSome_get?, mem_uris_iff]
  exact ⟨htaken, htaken, htaken⟩

end Registry

end Datatypes
