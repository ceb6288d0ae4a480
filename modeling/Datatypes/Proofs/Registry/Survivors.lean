import Datatypes.Proofs.Registry.Candidates
import Datatypes.Proofs.Registry.Clients
import Datatypes.Proofs.Store.Faulty
import Datatypes.Proofs.Store.Hashed

/-! # Failed registrations leave no trace

A store may turn any attempt to insert down. Strike every registration that failed, for
whatever reason, out of a run: the rest, put to a store that never fails, is answered
as before and leads to the same entries. Nothing is asked of the offers, since each
request brings the answers that its offers give along with it.
-/

namespace Datatypes

/-- The offers of a batch. -/
def Request.offers : Request → List Offer
  | .registerBatch offers => offers
  | _ => []

/-- What is left of a request with its answer when failed registrations are struck out:
nothing of a single one, the items that were registered of a batch. -/
def Request.surviving? (request : Request) :
    Answer RegistryError → Option (Request × Answer RegistryError)
  | .registration (.error _) => none
  | .batch results =>
      let kept := (request.offers.zip results).filter fun item => item.2.isRegistered
      some (.registerBatch (kept.map Prod.fst), .batch (kept.map Prod.snd))
  | answer => some (request, answer)

namespace Registry

variable {σ : Type} [Store σ]

/-- What is left of the requests of a run and of their answers. -/
def survivors (r : Registry σ) (requests : List Request) :
    List (Request × Answer RegistryError) :=
  (requests.zip ((r.run requests).1.map Recorded.value)).filterMap fun asked =>
    asked.1.surviving? asked.2

theorem survivors_cons (r : Registry σ) (request : Request) (rest : List Request) :
    r.survivors (request :: rest) =
      (request.surviving? (r.step request).value.1).toList ++
        (r.step request).value.2.survivors rest := by
  change List.filterMap _ ((request, (r.step request).value.1) :: _) = _
  rw [List.filterMap_cons]
  cases request.surviving? (r.step request).value.1 <;> rfl

/-- The registry with the store behind one that fails now and then. -/
def behind (r : Registry (FaultyStore σ)) : Registry σ :=
  ⟨r.store.inner, r.settings⟩

/-! ## Refusals -/

/-- A request, other than a batch, that hands a datatype to the store. -/
inductive Hands : Request → Datatype → Prop where
  | register {offer : Offer} {d : Datatype} (hcandidate : offer.candidate = .ok d) :
    Hands (.register offer) d
  | define {definition? : Option Definition} {d : Datatype}
    (hcandidate : Definition.candidate definition? = .ok d) : Hands (.define definition?) d

/-- What the store objects to a datatype is the answer. -/
theorem answer_of_refused {r : Registry σ} {request : Request} {d : Datatype}
    {e : RegistryError} (hhands : Hands request d)
    (hrefused : (Store.insert r.store d).1 = .error e) :
    (r.step request).value.1 = .registration (.error e) := by
  cases hhands with
  | register hcandidate =>
      rw [value_step_register, hcandidate, propose_of_refused hrefused]
  | define hcandidate =>
      rw [value_step_define, hcandidate, propose_of_refused hrefused]

/-! ## Proposals -/

variable {r : Registry (FaultyStore σ)}

theorem behind_propose_of_ok {candidate : Except RegistryError Datatype} {d : Datatype}
    (hok : (r.propose candidate).1 = .ok d) :
    r.behind.propose candidate = (.ok d, (r.propose candidate).2.behind) := by
  cases candidate with
  | error e => contradiction
  | ok proposed =>
      rw [propose_ok] at hok
      cases hinsert : (Store.insert r.store proposed).1 with
      | error e =>
          rw [hinsert] at hok
          contradiction
      | ok stored =>
          rw [hinsert] at hok
          rw [propose_ok, propose_ok, behind, FaultyStore.inner_insert_of_ok hinsert]
          exact Prod.ext hok rfl

variable [EmptyCollection σ] [LawfulStore σ]

theorem behind_propose_of_error {candidate : Except RegistryError Datatype} {e : RegistryError}
    (herror : (r.propose candidate).1 = .error e) :
    (r.propose candidate).2.behind = r.behind := by
  cases candidate with
  | error e => rfl
  | ok proposed =>
      rw [propose_ok] at herror ⊢
      cases hinsert : (Store.insert r.store proposed).1 with
      | error e =>
          exact congrArg (Registry.mk · r.settings) (FaultyStore.inner_insert_of_error hinsert)
      | ok stored =>
          rw [hinsert] at herror
          contradiction

/-! ## Batches -/

/-- The items of a batch that were registered, put to the store behind as a batch of
their own, are registered there. -/
theorem behind_registerBatch (r : Registry (FaultyStore σ)) (offers : List Offer) :
    let results := (r.registerBatch offers).value.1
    let kept := (offers.zip results).filter fun item => item.2.isRegistered
    (r.behind.registerBatch (kept.map Prod.fst)).value =
      (kept.map Prod.snd, (r.registerBatch offers).value.2.behind) := by
  induction offers generalizing r with
  | nil => rfl
  | cons offer rest ih =>
      have hrest := ih (r.registerItem offer).value.2
      rw [value_registerBatch_cons]
      dsimp only at hrest ⊢
      rw [List.zip_cons_cons]
      cases houtcome : (r.propose offer.next.candidate).1 with
      | error e =>
          have hbehind : (r.registerItem offer).value.2.behind = r.behind := by
            rw [value_registerItem]
            exact behind_propose_of_error houtcome
          -- The item is struck out, and the rest finds the entries that it found.
          rw [List.filter_cons_of_neg, ← hbehind]
          · exact hrest
          · simp [value_registerItem, houtcome, BatchResult.ofOutcome, BatchResult.isRegistered]
      | ok d =>
          have hitem : (r.behind.registerItem offer).value =
              ((r.registerItem offer).value.1, (r.registerItem offer).value.2.behind) := by
            rw [value_registerItem, value_registerItem, behind_propose_of_ok houtcome, houtcome]
          rw [List.filter_cons_of_pos]
          · rw [List.map_cons, List.map_cons, value_registerBatch_cons, hitem]
            dsimp only
            rw [hrest]
          · simp [value_registerItem, houtcome, BatchResult.ofOutcome, BatchResult.isRegistered]

/-! ## Steps and runs -/

/-- If nothing survives of a request, the entries stay; otherwise what survives is
answered alike by the store behind, and leads to the same entries. -/
def MatchedBehind (r : Registry (FaultyStore σ)) (request : Request) : Prop :=
  match request.surviving? (r.step request).value.1 with
  | none => (r.step request).value.2.behind = r.behind
  | some kept => (r.behind.step kept.1).value = (kept.2, (r.step request).value.2.behind)

theorem matchedBehind_of_single {request : Request} {candidate : Except RegistryError Datatype}
    (hstep : (r.step request).value =
      (.registration (r.propose candidate).1, (r.propose candidate).2))
    (hbehind : (r.behind.step request).value =
      (.registration (r.behind.propose candidate).1, (r.behind.propose candidate).2)) :
    r.MatchedBehind request := by
  unfold MatchedBehind
  rw [hstep]
  cases houtcome : (r.propose candidate).1 with
  | error e => exact behind_propose_of_error houtcome
  | ok d =>
      rw [behind_propose_of_ok houtcome] at hbehind
      exact hbehind

theorem matchedBehind (r : Registry (FaultyStore σ)) (request : Request) :
    r.MatchedBehind request := by
  -- A single registration has one candidate, whichever store it is put to.
  cases request with
  | register offer =>
      exact matchedBehind_of_single (value_step_register _ _) (value_step_register _ _)
  | define definition? =>
      exact matchedBehind_of_single (value_step_define _ _) (value_step_define _ _)
  | registerBatch offers =>
      exact congrArg (fun batch => (Answer.batch batch.1, batch.2)) (r.behind_registerBatch offers)
  | get _ | parse _ _ | isValid _ _ | accepts _ _ | equal _ _ | canonicalise _ | uris
  | contains _ | size | isEmpty =>
      -- Faults befall insertions only. A question is put to the store behind as it is.
      rfl

/-- What survives of a run is answered alike by the store behind, and leads to the same
entries. -/
theorem behind_run (r : Registry (FaultyStore σ)) (requests : List Request) :
    let replay := r.behind.run ((r.survivors requests).map Prod.fst)
    replay.1.map Recorded.value = (r.survivors requests).map Prod.snd ∧
      replay.2 = (r.run requests).2.behind := by
  induction requests generalizing r with
  | nil => exact ⟨rfl, rfl⟩
  | cons request rest ih =>
      obtain ⟨hanswers, hentries⟩ := ih (r.step request).value.2
      have hmatched := r.matchedBehind request
      unfold MatchedBehind at hmatched
      dsimp only
      rw [survivors_cons]
      cases hsurviving : request.surviving? (r.step request).value.1 with
      | none =>
          rw [hsurviving] at hmatched
          rw [hmatched] at hanswers hentries
          exact ⟨hanswers, hentries⟩
      | some kept =>
          rw [hsurviving] at hmatched
          have hanswer : (r.behind.step kept.1).value.1 = kept.2 := by rw [hmatched]
          have hbehind : (r.behind.step kept.1).value.2 = (r.step request).value.2.behind := by
            rw [hmatched]
          rw [← hbehind] at hanswers hentries
          exact ⟨congr (congrArg List.cons hanswer) hanswers, hentries⟩

/-! ## Failures -/

/-- How the failures of registrations are met, be it the store that fails or not. -/
structure MeetsFailures (r : Registry (FaultyStore σ)) : Prop where
  /-- A call that fails leaves the entries as they were. -/
  entries_of_error : ∀ request e, (r.step request).value.1 = .registration (.error e) →
    (r.step request).value.2.behind = r.behind
  /-- So does an item of a batch. -/
  entries_of_failed : ∀ offer uri? e, (r.registerItem offer).value.1 = .failed uri? e →
    (r.registerItem offer).value.2.behind = r.behind
  /-- What the store objects to a datatype is the answer, and clients translate it. -/
  answer_of_refused : ∀ request d e, Hands request d →
    (Store.insert r.store d).1 = .error e →
      (r.step request).value.1 = .registration (.error e) ∧
        ((⟨r⟩ : Client (FaultyStore σ)).step request).value.1 =
          .registration (.error e.toDatatypeError)
  /-- A fault is an internal error with the same text, for clients as well. -/
  answer_of_fault : ∀ request d message, Hands request d →
    r.store.fault? r.store.attempts = some message →
      (r.step request).value.1 = .registration (.error (.internal message)) ∧
        ((⟨r⟩ : Client (FaultyStore σ)).step request).value.1 =
          .registration (.error (.internal message))
  item_of_refused : ∀ offer d e, offer.next.candidate = .ok d →
    (Store.insert r.store d).1 = .error e →
      (r.registerItem offer).value.1 = .failed offer.attempted? e.toDatatypeError
  /-- The offers after an item that fails are registered as if the batch began there. -/
  batch_goes_on : ∀ before offer after uri? e,
    let reached := (r.registerBatch before).value
    let item := (reached.2.registerItem offer).value
    item.1 = .failed uri? e →
      (r.registerBatch (before ++ offer :: after)).value =
        (reached.1 ++ .failed uri? e :: (item.2.registerBatch after).value.1,
          (item.2.registerBatch after).value.2)

theorem meetsFailures (r : Registry (FaultyStore σ)) : r.MeetsFailures where
  entries_of_error request e herror := by
    have hmatched := r.matchedBehind request
    rw [MatchedBehind, herror] at hmatched
    exact hmatched
  entries_of_failed offer uri? e hfailed := by
    rw [value_registerItem] at hfailed ⊢
    cases houtcome : (r.propose offer.next.candidate).1 with
    | error e => exact behind_propose_of_error houtcome
    | ok d =>
        rw [houtcome] at hfailed
        contradiction
  answer_of_refused request d e hhands hrefused := by
    have hanswer := answer_of_refused hhands hrefused
    exact ⟨hanswer, Client.answer_of_error hanswer⟩
  answer_of_fault request d message hhands hfault := by
    have hrefused : (Store.insert r.store d).1 = .error (.internal message) := by
      rw [FaultyStore.insert_of_fault hfault]
    have hanswer := answer_of_refused hhands hrefused
    exact ⟨hanswer, Client.answer_of_error hanswer⟩
  item_of_refused offer d e hcandidate hrefused := by
    rw [value_registerItem, hcandidate, propose_of_refused hrefused]
    rfl
  batch_goes_on before offer after uri? e := by
    intro reached item hfailed
    rw [value_registerBatch_append, value_registerBatch_cons, ← hfailed]

/-- Whatever attempts to insert the store turns down, strike what failed out of a run:
the rest is answered alike over a store that never fails, and the registry is the same.
No failure leaves a trace where it happens either. -/
theorem failures_leave_no_trace (settings : Settings) (fault? : Nat → Option String)
    (requests : List Request) :
    let faulty : Registry (FaultyStore HashedStore) := ⟨{ inner := ∅, fault? }, settings⟩
    let survivors := faulty.survivors requests
    let replay := (⟨∅, settings⟩ : Registry HashedStore).run (survivors.map Prod.fst)
    replay.1.map Recorded.value = survivors.map Prod.snd ∧
      replay.2 = (faulty.run requests).2.behind ∧
      ∀ r : Registry (FaultyStore HashedStore), r.MeetsFailures := by
  intro faulty survivors replay
  obtain ⟨hanswers, hentries⟩ := faulty.behind_run requests
  exact ⟨hanswers, hentries, meetsFailures⟩

end Registry

end Datatypes
