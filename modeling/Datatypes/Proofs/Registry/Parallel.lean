import Datatypes.Proofs.Journal
import Datatypes.Registry.Registration

/-! # Registrations on two registries

Every registration goes through the insertion of a datatype, and looks at nothing else of the
registry. If insertions have the same result and the same journal on registries that are
related in some way, and keep them related, then so do registrations of every kind.
-/

namespace Datatypes.Registry

open Recorded

variable {σ τ : Type} [Store σ] [Store τ] {related : Registry σ → Registry τ → Prop}
  (hinsert : ∀ r r' d, related r r' → Parallel related (r.insert d) (r'.insert d))
  {r : Registry σ} {r' : Registry τ}
include hinsert

theorem parallel_register (hrelated : related r r') (offer : Offer) :
    Parallel related (r.register offer) (r'.register offer) := by
  unfold register
  split
  · exact ⟨rfl, rfl, hrelated⟩
  · exact hinsert r r' offer.next.bind hrelated

theorem parallel_define (hrelated : related r r') (definition? : Option Definition) :
    Parallel related (r.define definition?) (r'.define definition?) := by
  unfold define
  cases definition? with
  | none => exact ⟨rfl, rfl, hrelated⟩
  | some definition =>
      dsimp only
      cases definition.complete with
      | error e => exact ⟨rfl, rfl, hrelated⟩
      | ok complete => exact parallel_register hinsert hrelated complete.offer

theorem parallel_registerItem (hrelated : related r r') (offer : Offer) :
    Parallel related (r.registerItem offer) (r'.registerItem offer) := by
  refine (parallel_register hinsert hrelated offer.next).bind ?_
  intro outcome s s' hs
  cases outcome with
  | ok d => exact .pure _ hs
  | error e => exact .pure _ hs

theorem parallel_registerBatch (hrelated : related r r') (offers : List Offer) :
    Parallel related (r.registerBatch offers) (r'.registerBatch offers) := by
  induction offers generalizing r r' with
  | nil => exact .pure [] hrelated
  | cons offer rest ih =>
      refine (parallel_registerItem hinsert hrelated offer).bind ?_
      intro result s s' hs
      refine (ih hs).bind ?_
      intro results t t' ht
      exact .pure (result :: results) ht

end Datatypes.Registry
