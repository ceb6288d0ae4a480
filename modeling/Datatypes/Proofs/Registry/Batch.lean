import Datatypes.Proofs.Registry.Startup
import Datatypes.Proofs.Store.Hashed

/-! # First come, first served

The offers of a batch are served one after the other. If each of them always gives
the same URI, an offer is registered exactly if its URI is not empty, not taken, and
not asked for earlier in the batch. It makes no difference how offers are split into
batches and single registrations.
-/

namespace Datatypes

/-- What a batch brings in under a URI: the first offer for it, and nothing under the
empty one. -/
def firstOffer? (offers : List Offer) (uri : String) : Option Datatype :=
  if uri = "" then none else (offers.find? fun offer => offer.uri = uri).map Offer.bind

theorem firstOffer?_append (first second : List Offer) (uri : String) :
    firstOffer? (first ++ second) uri =
      (firstOffer? first uri).or (firstOffer? second uri) := by
  unfold firstOffer?
  split
  · rfl
  · rw [List.find?_append, Option.map_or]

/-- Nothing comes in under a URI that no offer is for. -/
theorem firstOffer?_eq_none_iff {offers : List Offer} {uri : String} (hempty : uri ≠ "") :
    firstOffer? offers uri = none ↔ ∀ offer ∈ offers, offer.uri ≠ uri := by
  rw [firstOffer?, if_neg hempty, Option.map_eq_none_iff, List.find?_eq_none]
  simp only [decide_eq_true_eq]

theorem firstOffer?_singleton_self {offer : Offer} (hempty : offer.uri ≠ "") :
    firstOffer? [offer] offer.uri = some offer.bind := by
  rw [firstOffer?, if_neg hempty, List.find?_cons_of_pos]
  · rfl
  · exact decide_eq_true rfl

theorem firstOffer?_singleton_of_ne {offer : Offer} {uri : String} (hne : uri ≠ offer.uri) :
    firstOffer? [offer] uri = none := by
  by_cases hempty : uri = ""
  · exact if_pos hempty
  · rw [firstOffer?_eq_none_iff hempty]
    intro only honly
    rw [List.mem_singleton.mp honly]
    exact hne.symm

/-! ## Counts -/

namespace BatchSummary

theorem succeeded_le (results : List BatchResult) :
    (ofResults results).succeeded ≤ results.length :=
  List.countP_le_length

theorem succeeded_add_failed (results : List BatchResult) :
    (ofResults results).succeeded + (ofResults results).failed = results.length :=
  Nat.add_sub_of_le (succeeded_le results)

theorem allSucceeded_iff (results : List BatchResult) :
    (ofResults results).allSucceeded ↔ ∀ result ∈ results, result.isRegistered := by
  have hle := succeeded_le results
  have hsum := succeeded_add_failed results
  rw [allSucceeded, beq_iff_eq, ← List.countP_eq_length]
  change _ ↔ (ofResults results).succeeded = results.length
  omega

end BatchSummary

namespace Registry

variable {σ : Type} [Store σ]

/-! ## Results in order -/

theorem length_registerBatch (r : Registry σ) (offers : List Offer) :
    (r.registerBatch offers).value.1.length = offers.length := by
  induction offers generalizing r with
  | nil => rfl
  | cons offer rest ih =>
      rw [value_registerBatch_cons, List.length_cons, ih, List.length_cons]

/-- An offer of a batch is put to the registry that the offers before it lead to. -/
theorem getElem?_registerBatch (r : Registry σ) {offers : List Offer} {i : Nat} {offer : Offer}
    (hoffer : offers[i]? = some offer) :
    (r.registerBatch offers).value.1[i]? =
      some ((r.registerBatch (offers.take i)).value.2.registerItem offer).value.1 := by
  induction offers generalizing r i with
  | nil => contradiction
  | cons head rest ih =>
      cases i with
      | zero =>
          cases hoffer
          rfl
      | succ i =>
          rw [value_registerBatch_cons, List.getElem?_cons_succ, List.take_succ_cons,
            value_registerBatch_cons]
          exact ih (r.registerItem head).value.2 hoffer

/-- A batch of stable offers does what single registrations do. -/
theorem run_registers (r : Registry σ) {offers : List Offer}
    (hstable : ∀ offer ∈ offers, offer.Stable) :
    let single := r.run (offers.map .register)
    let batch := (r.registerBatch offers).value
    single.1.map Recorded.value =
        batch.1.map (fun result => Answer.registration result.outcome) ∧
      single.2 = batch.2 := by
  induction offers generalizing r with
  | nil => exact ⟨rfl, rfl⟩
  | cons offer rest ih =>
      obtain ⟨hoffer, hrest⟩ := List.forall_mem_cons.mp hstable
      have hstep := r.value_step_register offer
      have hitem := r.value_registerItem offer
      rw [hoffer.candidate_next] at hitem
      have hanswer : (r.step (.register offer)).value.1 =
          .registration (r.registerItem offer).value.1.outcome := by
        rw [hstep, hitem, BatchResult.outcome_ofOutcome]
      have hregistry : (r.registerItem offer).value.2 = (r.step (.register offer)).value.2 := by
        rw [hstep, hitem]
      obtain ⟨hanswers, hlast⟩ := ih (r.registerItem offer).value.2 hrest
      dsimp only
      rw [value_registerBatch_cons]
      rw [hregistry] at hanswers hlast ⊢
      exact ⟨congr (congrArg List.cons hanswer) hanswers, hlast⟩

theorem settings_registerBatch (r : Registry σ) (offers : List Offer) :
    (r.registerBatch offers).value.2.settings = r.settings :=
  r.settings_run [.registerBatch offers]

/-! ## Items -/

/-- What becomes of a stable offer in a batch. -/
inductive Served (r : Registry σ) (offer : Offer) : BatchResult → Registry σ → Prop where
  | empty (hempty : offer.uri = "") :
    Served r offer (.failed none (.invalidShape Definition.uriField)) r
  | taken (hempty : offer.uri ≠ "") {holder : Datatype}
    (htaken : r.get? offer.uri = some holder) :
    Served r offer (.failed (some offer.uri) (.duplicateUri offer.uri)) r
  | free (hempty : offer.uri ≠ "") (hfree : r.get? offer.uri = none) :
    Served r offer (.registered offer.bind) (r.propose (.ok offer.bind)).2

theorem Served.isRegistered_iff {r after : Registry σ} {offer : Offer} {result : BatchResult}
    (hserved : Served r offer result after) :
    result.isRegistered ↔ offer.uri ≠ "" ∧ r.get? offer.uri = none := by
  cases hserved with
  | empty hempty => simp [BatchResult.isRegistered, hempty]
  | taken hempty htaken => simp [BatchResult.isRegistered, htaken]
  | free hempty hfree => simp [BatchResult.isRegistered, hempty, hfree]

/-- An offer fails on its own empty URI or on a URI that is taken. -/
theorem Served.eq_of_failed {r after : Registry σ} {offer : Offer} {result : BatchResult}
    (hserved : Served r offer result after) (hfailed : ¬ result.isRegistered) :
    result =
      if offer.uri = "" then .failed none (.invalidShape "uri")
      else .failed (some offer.uri) (.duplicateUri offer.uri) := by
  cases hserved with
  | empty hempty => rw [if_pos hempty, Definition.uriField]
  | taken hempty htaken => rw [if_neg hempty]
  | free hempty hfree => exact absurd rfl hfailed

section Lawful

variable [EmptyCollection σ] [LawfulStore σ]

theorem served_registerItem (r : Registry σ) {offer : Offer} (hstable : offer.Stable) :
    Served r offer (r.registerItem offer).value.1 (r.registerItem offer).value.2 := by
  rw [value_registerItem, hstable.candidate_next, hstable.candidate_eq]
  by_cases hempty : offer.uri = ""
  · rw [if_pos hempty, Offer.attempted?, if_pos hempty]
    exact .empty hempty
  · rw [if_neg hempty, Offer.attempted?, if_neg hempty]
    cases hget : r.get? offer.bind.uri with
    | none =>
        rw [propose_free hget]
        exact .free hempty hget
    | some holder =>
        rw [propose_taken hget]
        exact .taken hempty hget

namespace Served

variable {r after : Registry σ} {offer : Offer} {result : BatchResult}

theorem get?_eq (hserved : Served r offer result after) (uri : String) :
    after.get? uri = (r.get? uri).or (firstOffer? [offer] uri) := by
  cases hserved with
  | empty hempty =>
      have hnone : firstOffer? [offer] uri = none := by
        by_cases huri : uri = offer.uri
        · exact if_pos (huri.trans hempty)
        · exact firstOffer?_singleton_of_ne huri
      rw [hnone, Option.or_none]
  | taken hempty htaken =>
      by_cases huri : uri = offer.uri
      · rw [huri, htaken, Option.some_or]
      · rw [firstOffer?_singleton_of_ne huri, Option.or_none]
  | free hempty hfree =>
      rw [get?_propose_free hfree, Offer.uri_bind]
      by_cases huri : uri = offer.uri
      · rw [if_pos huri, huri, hfree, Option.none_or, firstOffer?_singleton_self hempty]
      · rw [if_neg huri, firstOffer?_singleton_of_ne huri, Option.or_none]

/-- The registry grows by the offers that are registered. -/
theorem size_eq (hserved : Served r offer result after) :
    after.size = r.size + [result].countP BatchResult.isRegistered := by
  cases hserved with
  | empty hempty => rfl
  | taken hempty htaken => rfl
  | free hempty hfree =>
      rw [propose_ok]
      exact LawfulStore.size_insert r.store offer.bind hfree

end Served

/-! ## Batches -/

/-- A batch of stable offers brings in the first offer for each URI that is free, and
nothing else. -/
theorem get?_registerBatch (r : Registry σ) {offers : List Offer}
    (hstable : ∀ offer ∈ offers, offer.Stable) (uri : String) :
    (r.registerBatch offers).value.2.get? uri = (r.get? uri).or (firstOffer? offers uri) := by
  induction offers generalizing r with
  | nil =>
      have hnone : firstOffer? [] uri = none := by
        unfold firstOffer?
        split <;> rfl
      rw [hnone, Option.or_none]
      rfl
  | cons offer rest ih =>
      obtain ⟨hoffer, hrest⟩ := List.forall_mem_cons.mp hstable
      rw [value_registerBatch_cons]
      dsimp only
      -- The head brings in what it offers, the rest what it offers beyond that.
      rw [ih _ hrest, (r.served_registerItem hoffer).get?_eq uri, Option.or_assoc,
        ← firstOffer?_append, List.singleton_append]

theorem size_registerBatch (r : Registry σ) {offers : List Offer}
    (hstable : ∀ offer ∈ offers, offer.Stable) :
    (r.registerBatch offers).value.2.size =
      r.size + (r.registerBatch offers).value.1.countP BatchResult.isRegistered := by
  induction offers generalizing r with
  | nil => rfl
  | cons offer rest ih =>
      obtain ⟨hoffer, hrest⟩ := List.forall_mem_cons.mp hstable
      have hlater := ih (r.registerItem offer).value.2 hrest
      have hfirst := (r.served_registerItem hoffer).size_eq
      rw [value_registerBatch_cons, ← List.singleton_append, List.countP_append]
      dsimp only
      omega

/-- An offer is served by a registry in which its URI is taken exactly if it was taken
at first, or if the offer comes behind another one for the same URI. -/
theorem get?_before_eq_none_iff (r : Registry σ) {offers : List Offer}
    (hstable : ∀ offer ∈ offers, offer.Stable) (i : Nat) {uri : String} (hempty : uri ≠ "") :
    (r.registerBatch (offers.take i)).value.2.get? uri = none ↔
      r.get? uri = none ∧ ∀ j < i, offers[j]?.map Offer.uri ≠ some uri := by
  have hbefore : ∀ offer ∈ offers.take i, offer.Stable := by
    intro offer hoffer
    exact hstable offer (List.mem_of_mem_take hoffer)
  rw [r.get?_registerBatch hbefore, Option.or_eq_none_iff, firstOffer?_eq_none_iff hempty]
  -- An offer is among the first `i` exactly if its index is less than `i`.
  refine and_congr_right fun _ => ⟨?_, ?_⟩
  · intro hnone j hj hsame
    obtain ⟨earlier, hearlier, huri⟩ := Option.map_eq_some_iff.mp hsame
    have hbefore : (offers.take i)[j]? = some earlier := by
      rw [List.getElem?_take, if_pos hj, hearlier]
    exact hnone earlier (List.mem_of_getElem? hbefore) huri
  · intro hnone earlier hmem huri
    obtain ⟨j, hj⟩ := List.getElem?_of_mem hmem
    rw [List.getElem?_take] at hj
    split at hj
    · next hlt =>
        refine hnone j hlt ?_
        rw [hj, Option.map_some, huri]
    · contradiction

theorem Served.of_registered {r after : Registry σ} {offer : Offer} {d : Datatype}
    (hserved : Served r offer (.registered d) after) :
    d = offer.bind ∧ after.get? offer.uri = some d := by
  cases hserved with
  | free hempty hfree =>
      refine ⟨rfl, ?_⟩
      rw [get?_propose_free hfree, if_pos offer.uri_bind.symm]

/-- What is registered in a batch stays to its end. -/
theorem get?_of_registered (r : Registry σ) {offers : List Offer}
    (hstable : ∀ offer ∈ offers, offer.Stable) {i : Nat} {offer : Offer} {d : Datatype}
    (hoffer : offers[i]? = some offer)
    (hregistered : (r.registerBatch offers).value.1[i]? = some (.registered d)) :
    d = offer.bind ∧ (r.registerBatch offers).value.2.get? offer.uri = some d := by
  induction offers generalizing r i with
  | nil => contradiction
  | cons head rest ih =>
      obtain ⟨hhead, hrest⟩ := List.forall_mem_cons.mp hstable
      rw [value_registerBatch_cons] at hregistered ⊢
      cases i with
      | zero =>
          cases hoffer
          have hserved := r.served_registerItem hhead
          rw [Option.some.inj hregistered] at hserved
          obtain ⟨hbound, hget⟩ := hserved.of_registered
          have hlater := (r.registerItem offer).value.2.extends_run [.registerBatch rest]
          exact ⟨hbound, hlater.get? offer.uri d hget⟩
      | succ i => exact ih (r.registerItem head).value.2 hrest hoffer hregistered

/-- An offer is registered exactly if it is the first to come for a URI that may be had. -/
theorem isRegistered_iff_first (r : Registry σ) {offers : List Offer}
    (hstable : ∀ offer ∈ offers, offer.Stable) {i : Nat} {offer : Offer} {result : BatchResult}
    (hoffer : offers[i]? = some offer)
    (hresult : (r.registerBatch offers).value.1[i]? = some result) :
    result.isRegistered ↔ offer.uri ≠ "" ∧ r.get? offer.uri = none ∧
      ∀ j < i, offers[j]?.map Offer.uri ≠ some offer.uri := by
  have hoffered := hstable offer (List.mem_of_getElem? hoffer)
  rw [r.getElem?_registerBatch hoffer, Option.some.injEq] at hresult
  rw [← hresult, (served_registerItem _ hoffered).isRegistered_iff]
  exact and_congr_right fun hempty => r.get?_before_eq_none_iff hstable i hempty

end Lawful

/-- First come, first served: the results of a batch in order, the registry that it leads
to, and the counts. -/
structure FirstComeFirstServed (r : Registry σ) (offers : List Offer)
    (results : List BatchResult) (after : Registry σ) : Prop where
  length_results : results.length = offers.length
  isRegistered_iff : ∀ (i : Nat) (offer : Offer) (result : BatchResult),
    offers[i]? = some offer → results[i]? = some result →
      (result.isRegistered ↔ offer.uri ≠ "" ∧ r.get? offer.uri = none ∧
        ∀ j < i, offers[j]?.map Offer.uri ≠ some offer.uri)
  get?_of_registered : ∀ (i : Nat) (offer : Offer) (d : Datatype),
    offers[i]? = some offer → results[i]? = some (.registered d) →
      d = offer.bind ∧ after.get? offer.uri = some d
  eq_of_failed : ∀ (i : Nat) (offer : Offer) (result : BatchResult),
    offers[i]? = some offer → results[i]? = some result → ¬ result.isRegistered →
      result =
        if offer.uri = "" then .failed none (.invalidShape "uri")
        else .failed (some offer.uri) (.duplicateUri offer.uri)
  settings : after.settings = r.settings
  /-- The registry grows by the first offer for each free URI, and by nothing else. -/
  get?_after : ∀ uri, after.get? uri = (r.get? uri).or (firstOffer? offers uri)
  /-- The answers are those of single registrations, and so is the registry. -/
  one_by_one :
    (r.run (offers.map .register)).1.map Recorded.value =
        results.map (fun result => .registration result.outcome) ∧
      (r.run (offers.map .register)).2 = after
  /-- The parts of a batch, put to the registry one after the other, do what the batch
  does, and are on record in the same way. -/
  in_parts : ∀ first second, offers = first ++ second →
    r.registerBatch offers = do
      let earlier ← r.registerBatch first
      let later ← earlier.2.registerBatch second
      return (earlier.1 ++ later.1, later.2)
  size_after : after.size = r.size + (BatchSummary.ofResults results).succeeded
  succeeded_le : (BatchSummary.ofResults results).succeeded ≤ results.length
  succeeded_add_failed :
    (BatchSummary.ofResults results).succeeded + (BatchSummary.ofResults results).failed =
      offers.length
  allSucceeded_iff : (BatchSummary.ofResults results).allSucceeded ↔
    ∀ result ∈ results, result.isRegistered

/-- A batch is served first come, first served, provided that each of its offers always
gives the same URI. Any number of offers may give the same one, or an empty one. -/
theorem firstComeFirstServed_of_stable (r : Registry HashedStore) (offers : List Offer)
    (hstable : ∀ offer ∈ offers, offer.Stable) :
    r.FirstComeFirstServed offers (r.registerBatch offers).value.1
      (r.registerBatch offers).value.2 where
  length_results := r.length_registerBatch offers
  isRegistered_iff _ _ _ hoffer hresult := r.isRegistered_iff_first hstable hoffer hresult
  get?_of_registered _ _ _ hoffer hregistered := r.get?_of_registered hstable hoffer hregistered
  eq_of_failed i offer result hoffer hresult hfailed := by
    have hoffered := hstable offer (List.mem_of_getElem? hoffer)
    rw [r.getElem?_registerBatch hoffer, Option.some.injEq] at hresult
    have hserved := (r.registerBatch (offers.take i)).value.2.served_registerItem hoffered
    rw [hresult] at hserved
    exact hserved.eq_of_failed hfailed
  settings := r.settings_registerBatch offers
  get?_after uri := r.get?_registerBatch hstable uri
  one_by_one := r.run_registers hstable
  in_parts first second hsplit := by rw [hsplit, registerBatch_append]
  size_after := r.size_registerBatch hstable
  succeeded_le := BatchSummary.succeeded_le _
  succeeded_add_failed := by
    rw [BatchSummary.succeeded_add_failed, length_registerBatch]
  allSucceeded_iff := BatchSummary.allSucceeded_iff _

/-- The datatype of strings is offered twice, with an offer without a URI in between. -/
theorem firstComeFirstServed_xsdString_twice :
    let r : Registry HashedStore := ⟨∅, {}⟩
    let offers := [Builtin.xsdString, .fixed "" Builtin.xsdStringDescriptor, Builtin.xsdString]
    (∀ offer ∈ offers, offer.Stable) ∧
      r.FirstComeFirstServed offers (r.registerBatch offers).value.1
        (r.registerBatch offers).value.2 := by
  intro r offers
  have hstable : ∀ offer ∈ offers, offer.Stable := by
    intro offer hoffer
    rcases List.mem_cons.mp hoffer with rfl | hoffer
    · exact Builtin.stable_xsdString
    rcases List.mem_cons.mp hoffer with rfl | hoffer
    · exact .fixed _ _
    rw [List.mem_singleton.mp hoffer]
    exact Builtin.stable_xsdString
  exact ⟨hstable, firstComeFirstServed_of_stable r offers hstable⟩

end Registry

end Datatypes
