import Datatypes.Proofs.Journal
import Datatypes.Registry.Run

/-! # Registration as a sequence of proposals

An offer, a definition and an item of a batch are registered in the same way: each
of them proposes a candidate, which is a datatype or the cause why there is none,
and the store decides on the datatype. The changes that a run makes to a registry
are those of its proposals, one after the other; questions in between make none.
-/

namespace Datatypes

/-! ## Candidates -/

@[simp] theorem Offer.uri_bind (offer : Offer) : offer.bind.uri = offer.uri := rfl

/-- What an offer proposes: the datatype that it is bound to, unless the URI is found
empty before. -/
def Offer.candidate (offer : Offer) : Except RegistryError Datatype :=
  if offer.uri = "" then .error (.invalidShape Definition.uriField) else .ok offer.next.bind

/-- What a definition proposes: its datatype, if there is a complete definition. -/
def Definition.candidate (definition? : Option Definition) : Except RegistryError Datatype :=
  match definition? with
  | none => .error .missingArgument
  | some definition =>
      match definition.complete with
      | .error e => .error (.ofDatatypeError e)
      | .ok complete => complete.offer.candidate

/-- The candidates of a request, in order. A question has none. -/
def Request.candidates : Request → List (Except RegistryError Datatype)
  | .register offer => [offer.candidate]
  | .define definition? => [Definition.candidate definition?]
  | .registerBatch offers => offers.map fun offer => offer.next.candidate
  | _ => []

/-- An offer whose author always gives the same URI. -/
def Offer.Stable (offer : Offer) : Prop :=
  ∀ n, offer.uriAnswer n = offer.uri

namespace Offer.Stable

variable {offer : Offer}

theorem fixed (uri : String) (descriptor : Descriptor) : (Offer.fixed uri descriptor).Stable :=
  fun _ => rfl

theorem eq_fixed (hstable : offer.Stable) : offer = .fixed offer.uri offer.descriptor := by
  obtain ⟨uriAnswer, descriptor⟩ := offer
  exact congrArg (Offer.mk · descriptor) (funext hstable)

theorem bind_next (hstable : offer.Stable) : offer.next.bind = offer.bind := by
  unfold bind
  exact congrArg (Datatype.mk · offer.descriptor) (hstable 1)

theorem next (hstable : offer.Stable) : offer.next.Stable :=
  fun n => (hstable (n + 1)).trans (hstable 1).symm

theorem candidate_eq (hstable : offer.Stable) :
    offer.candidate =
      if offer.uri = "" then .error (.invalidShape Definition.uriField) else .ok offer.bind := by
  rw [candidate, hstable.bind_next]

/-- It makes no difference to a stable offer whether it comes in a batch. -/
theorem candidate_next (hstable : offer.Stable) : offer.next.candidate = offer.candidate := by
  have huri : offer.next.uri = offer.uri := hstable 1
  rw [hstable.next.candidate_eq, hstable.candidate_eq, huri, hstable.bind_next]

end Offer.Stable

/-! ## Outcomes -/

namespace RegistryError

@[simp] theorem ofDatatypeError_toDatatypeError (e : RegistryError) :
    ofDatatypeError e.toDatatypeError = e := by
  cases e <;> rfl

@[simp] theorem toDatatypeError_ofDatatypeError (e : DatatypeError) :
    (ofDatatypeError e).toDatatypeError = e := by
  cases e <;> rfl

end RegistryError

namespace BatchResult

/-- The result that reports what became of a candidate. -/
def ofOutcome (attempted? : Option String) : Except RegistryError Datatype → BatchResult
  | .ok datatype => registered datatype
  | .error e => failed attempted? e.toDatatypeError

/-- What became of the candidate, in the words of the registry. -/
def outcome : BatchResult → Except RegistryError Datatype
  | registered datatype => .ok datatype
  | failed _ e => .error (.ofDatatypeError e)

@[simp] theorem outcome_ofOutcome (attempted? : Option String)
    (result : Except RegistryError Datatype) : (ofOutcome attempted? result).outcome = result := by
  cases result with
  | ok datatype => rfl
  | error e => exact congrArg Except.error e.ofDatatypeError_toDatatypeError

end BatchResult

/-- What became of the candidates of a request, by its answer. -/
def Answer.outcomes : Answer RegistryError → List (Except RegistryError Datatype)
  | registration result => [result]
  | batch results => results.map BatchResult.outcome
  | _ => []

/-! ## Proposals -/

namespace Registry

variable {σ : Type} [Store σ]

/-- Puts a candidate to the store, if there is a datatype. -/
def propose (r : Registry σ) :
    Except RegistryError Datatype → Except RegistryError Datatype × Registry σ
  | .error e => (.error e, r)
  | .ok datatype => (r.insert datatype).value

/-- Puts candidates to the store one after the other. -/
def proposeAll (r : Registry σ) :
    List (Except RegistryError Datatype) → List (Except RegistryError Datatype) × Registry σ
  | [] => ([], r)
  | candidate :: rest =>
      let first := r.propose candidate
      let later := first.2.proposeAll rest
      (first.1 :: later.1, later.2)

/-- A datatype is registered if the store takes it; otherwise the store's error is the
outcome. -/
theorem propose_ok (r : Registry σ) (d : Datatype) :
    r.propose (.ok d) =
      ((Store.insert r.store d).1.map fun _ => d, ⟨(Store.insert r.store d).2, r.settings⟩) := by
  change (r.insert d).value = _
  unfold insert
  rcases Store.insert r.store d with ⟨_ | _, store⟩ <;> rfl

theorem propose_of_refused {r : Registry σ} {d : Datatype} {e : RegistryError}
    (hrefused : (Store.insert r.store d).1 = .error e) : (r.propose (.ok d)).1 = .error e := by
  rw [propose_ok, hrefused]
  rfl

theorem value_register (r : Registry σ) (offer : Offer) :
    (r.register offer).value = r.propose offer.candidate := by
  unfold register Offer.candidate
  split <;> rfl

theorem value_define (r : Registry σ) (definition? : Option Definition) :
    (r.define definition?).value = r.propose (Definition.candidate definition?) := by
  unfold define Definition.candidate
  cases definition? with
  | none => rfl
  | some definition =>
      dsimp only
      cases definition.complete with
      | error e => rfl
      | ok complete => exact r.value_register complete.offer

theorem value_registerItem (r : Registry σ) (offer : Offer) :
    (r.registerItem offer).value =
      (.ofOutcome offer.attempted? (r.propose offer.next.candidate).1,
        (r.propose offer.next.candidate).2) := by
  unfold registerItem
  rw [Recorded.value_bind, value_register]
  cases (r.propose offer.next.candidate).1 <;> rfl

/-- An item of a batch logs what the registration of the offer that is left logs. -/
theorem events_registerItem (r : Registry σ) (offer : Offer) :
    (r.registerItem offer).events = (r.register offer.next).events := by
  unfold registerItem
  rw [Recorded.events_bind]
  cases (r.register offer.next).value.1 <;> exact List.append_nil _

theorem value_registerBatch_cons (r : Registry σ) (offer : Offer) (rest : List Offer) :
    (r.registerBatch (offer :: rest)).value =
      ((r.registerItem offer).value.1 ::
          ((r.registerItem offer).value.2.registerBatch rest).value.1,
        ((r.registerItem offer).value.2.registerBatch rest).value.2) := rfl

/-- A batch may be cut in two anywhere, and the parts put to the registry one after the
other. -/
theorem registerBatch_append (r : Registry σ) (first second : List Offer) :
    r.registerBatch (first ++ second) = (do
      let earlier ← r.registerBatch first
      let later ← earlier.2.registerBatch second
      return (earlier.1 ++ later.1, later.2)) := by
  induction first generalizing r with
  | nil => exact (bind_pure _).symm
  | cons offer rest ih =>
      simp only [List.cons_append, registerBatch, ih, bind_assoc, pure_bind]

theorem value_registerBatch_append (r : Registry σ) (first second : List Offer) :
    (r.registerBatch (first ++ second)).value =
      ((r.registerBatch first).value.1 ++
          ((r.registerBatch first).value.2.registerBatch second).value.1,
        ((r.registerBatch first).value.2.registerBatch second).value.2) := by
  rw [registerBatch_append]
  rfl

/-- A batch proposes the candidates of its items. -/
theorem registerBatch_proposeAll (r : Registry σ) (offers : List Offer) :
    (r.registerBatch offers).value.1.map BatchResult.outcome =
        (r.proposeAll (offers.map fun offer => offer.next.candidate)).1 ∧
      (r.registerBatch offers).value.2 =
        (r.proposeAll (offers.map fun offer => offer.next.candidate)).2 := by
  induction offers generalizing r with
  | nil => exact ⟨rfl, rfl⟩
  | cons offer rest ih =>
      -- An item has drawn one answer from its offer before it is registered.
      obtain ⟨houtcomes, hregistry⟩ := ih (r.propose offer.next.candidate).2
      rw [value_registerBatch_cons, value_registerItem]
      simp only [List.map_cons, BatchResult.outcome_ofOutcome, proposeAll]
      exact ⟨congrArg _ houtcomes, hregistry⟩

theorem value_step_register (r : Registry σ) (offer : Offer) :
    (r.step (.register offer)).value =
      (.registration (r.propose offer.candidate).1, (r.propose offer.candidate).2) := by
  rw [← value_register]
  rfl

theorem value_step_define (r : Registry σ) (definition? : Option Definition) :
    (r.step (.define definition?)).value =
      (.registration (r.propose (Definition.candidate definition?)).1,
        (r.propose (Definition.candidate definition?)).2) := by
  rw [← value_define]
  rfl

/-- A request proposes one candidate, or it is a batch, or it is a question and leaves
the registry as it is. -/
theorem step_cases (r : Registry σ) (request : Request) :
    (∃ candidate, request.candidates = [candidate] ∧
      (r.step request).value =
        (.registration (r.propose candidate).1, (r.propose candidate).2)) ∨
    (∃ offers, request = .registerBatch offers) ∨
    (request.candidates = [] ∧ (r.step request).value.1.outcomes = [] ∧
      (r.step request).value.2 = r) := by
  cases request with
  | register offer => exact .inl ⟨offer.candidate, rfl, r.value_step_register offer⟩
  | define definition? =>
      exact .inl ⟨Definition.candidate definition?, rfl, r.value_step_define definition?⟩
  | registerBatch offers => exact .inr (.inl ⟨offers, rfl⟩)
  | get _ | parse _ _ | isValid _ _ | accepts _ _ | equal _ _ | canonicalise _ | uris
  | contains _ | size | isEmpty => exact .inr (.inr ⟨rfl, rfl, rfl⟩)

theorem step_proposeAll (r : Registry σ) (request : Request) :
    (r.step request).value.1.outcomes = (r.proposeAll request.candidates).1 ∧
      (r.step request).value.2 = (r.proposeAll request.candidates).2 := by
  rcases r.step_cases request with ⟨candidate, hcandidates, hstep⟩ | ⟨offers, rfl⟩ |
    ⟨hcandidates, houtcomes, hregistry⟩
  · rw [hcandidates, hstep]
    exact ⟨rfl, rfl⟩
  · exact r.registerBatch_proposeAll offers
  · rw [hcandidates, houtcomes, hregistry]
    exact ⟨rfl, rfl⟩

theorem proposeAll_append (r : Registry σ) (first second : List (Except RegistryError Datatype)) :
    r.proposeAll (first ++ second) =
      ((r.proposeAll first).1 ++ ((r.proposeAll first).2.proposeAll second).1,
        ((r.proposeAll first).2.proposeAll second).2) := by
  induction first generalizing r with
  | nil => rfl
  | cons candidate rest ih => simp only [List.cons_append, proposeAll, ih]

/-- A run does to a registry what the candidates of its requests do, and its answers
tell what became of them. -/
theorem run_proposeAll (r : Registry σ) (requests : List Request) :
    ((r.run requests).1.flatMap fun answer => answer.value.outcomes) =
        (r.proposeAll (requests.flatMap Request.candidates)).1 ∧
      (r.run requests).2 = (r.proposeAll (requests.flatMap Request.candidates)).2 := by
  induction requests generalizing r with
  | nil => exact ⟨rfl, rfl⟩
  | cons request rest ih =>
      obtain ⟨hfirst, hregistry⟩ := r.step_proposeAll request
      obtain ⟨hlater, hlast⟩ := ih (r.step request).value.2
      rw [List.flatMap_cons, proposeAll_append, ← hfirst, ← hregistry, ← hlater, ← hlast]
      exact ⟨List.flatMap_cons, rfl⟩

/-- What every proposal preserves, a sequence of them preserves. -/
theorem proposeAll_induction {motive : Registry σ → Prop}
    (hpropose : ∀ r candidate, motive r → motive (r.propose candidate).2)
    (r : Registry σ) (candidates : List (Except RegistryError Datatype)) (hr : motive r) :
    motive (r.proposeAll candidates).2 := by
  induction candidates generalizing r with
  | nil => exact hr
  | cons candidate rest ih => exact ih (r.propose candidate).2 (hpropose r candidate hr)

theorem run_induction {motive : Registry σ → Prop}
    (hpropose : ∀ r candidate, motive r → motive (r.propose candidate).2)
    (r : Registry σ) (requests : List Request) (hr : motive r) : motive (r.run requests).2 := by
  rw [(r.run_proposeAll requests).2]
  exact proposeAll_induction hpropose r _ hr

theorem run_append (r : Registry σ) (first second : List Request) :
    r.run (first ++ second) =
      ((r.run first).1 ++ ((r.run first).2.run second).1, ((r.run first).2.run second).2) := by
  induction first generalizing r with
  | nil => rfl
  | cons request rest ih => simp only [List.cons_append, run, ih]

end Registry

end Datatypes
