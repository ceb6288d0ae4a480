import Datatypes.Proofs.Registry.Coherence
import Datatypes.Proofs.Registry.Events
import Datatypes.Proofs.Registry.Precedence
import Mathlib.Data.List.Forall2

/-! # The log accounts for the registry

Every attempt to register logs one verdict: the datatype that was registered, or a warning.
Nothing else that a registry does logs a verdict. So a log that has been kept since the set-up
tells which URIs are taken and how many attempts have failed.
-/

namespace Datatypes

/-! ## Verdicts -/

/-- The URI of the datatype that was registered, if one was. -/
def Datatype.uriOfOutcome? (outcome : Except RegistryError Datatype) : Option String :=
  outcome.toOption.map uri

namespace Event

/-- The log shows the event as the registration of a datatype. -/
def isRegistration (event : Event) : Bool :=
  event.level = .debug ∧ event.message = "registered datatype"

def isWarning (event : Event) : Bool :=
  event.level = .warn

def isVerdict (event : Event) : Bool :=
  event.isRegistration || event.isWarning

/-- The log shows by the event what became of an attempt to register: the URI and the
identifier of the datatype, or a warning. -/
def Shows (event : Event) : Except RegistryError Datatype → Prop
  | .ok d => event.isRegistration ∧ event.fields = [("uri", d.uri), ("datatype_id", d.id.text)]
  | .error _ => event.isWarning

/-- The URI under which the log shows a datatype as registered. -/
def registeredUri? (event : Event) : Option String :=
  if event.isRegistration then event.fields.lookup "uri" else none

/-- What became of the attempt to register that the event is about, if it is about one. -/
def outcome? : Event → Option (Except RegistryError Datatype)
  | registered d => some (.ok d)
  | registrationRejected _ e => some (.error e)
  | emptyUri => some (.error (.invalidShape Definition.uriField))
  | noDefinition => some (.error .missingArgument)
  | incompleteDefinition _ e => some (.error (.ofDatatypeError e))
  | initializing | settingsLoaded _ | initialized _ | illegalLexicalValue _ _
  | sourceRejected _ _ | comparisonFailed _ => none

theorem isRegistration_eq (event : Event) : event.isRegistration = event.outcome?.any (·.isOk) := by
  cases event with
  | registered d => rfl
  | settingsLoaded settings =>
      rcases settings with ⟨_ | _, _ | _⟩ <;> decide
  | _ => rfl

theorem isWarning_eq (event : Event) : event.isWarning = event.outcome?.any (!·.isOk) := by
  cases event <;> rfl

theorem isVerdict_eq (event : Event) : event.isVerdict = event.outcome?.isSome := by
  rw [isVerdict, isRegistration_eq, isWarning_eq]
  cases event <;> rfl

theorem registeredUri?_eq (event : Event) :
    event.registeredUri? = event.outcome?.bind Datatype.uriOfOutcome? := by
  rw [registeredUri?, isRegistration_eq]
  cases event <;> rfl

theorem isSome_registeredUri? (event : Event) :
    event.registeredUri?.isSome = event.isRegistration := by
  rw [registeredUri?_eq, isRegistration_eq]
  cases event <;> rfl

theorem shows_of_outcome? {event : Event} {outcome : Except RegistryError Datatype}
    (houtcome : event.outcome? = some outcome) : event.Shows outcome := by
  have hregistration := event.isRegistration_eq
  have hwarning := event.isWarning_eq
  rw [houtcome] at hregistration hwarning
  cases outcome with
  | error e => exact hwarning
  | ok d =>
      refine ⟨hregistration, ?_⟩
      cases event <;> cases houtcome
      rfl

end Event

namespace Recorded

variable {α β : Type}

/-- What became of the attempts to register that the events of an operation are about. -/
def verdicts (result : Recorded α) : List (Except RegistryError Datatype) :=
  result.events.filterMap Event.outcome?

theorem verdicts_bind (first : Recorded α) (rest : α → Recorded β) :
    (first >>= rest).verdicts = first.verdicts ++ (rest first.value).verdicts := by
  rw [verdicts, events_bind, List.filterMap_append]
  rfl

theorem verdicts_map (f : α → β) (result : Recorded α) :
    (f <$> result).verdicts = result.verdicts := by
  rw [verdicts, events_map, verdicts]

end Recorded

namespace Registry

open Recorded

section Verdicts

variable {σ : Type} [Store σ]

theorem verdicts_insert (r : Registry σ) (d : Datatype) :
    (r.insert d).verdicts = [(r.insert d).value.1] := by
  unfold insert
  rcases Store.insert r.store d with ⟨_ | _, store⟩ <;> rfl

theorem verdicts_register (r : Registry σ) (offer : Offer) :
    (r.register offer).verdicts = [(r.register offer).value.1] := by
  unfold register
  split
  · rfl
  · exact r.verdicts_insert offer.next.bind

/-- A definition that is complete is left to the registration of its offer, which logs the
one verdict. -/
theorem verdicts_define (r : Registry σ) (definition? : Option Definition) :
    (r.define definition?).verdicts = [(r.define definition?).value.1] := by
  unfold define
  cases definition? with
  | none => rfl
  | some definition =>
      dsimp only
      cases definition.complete with
      | error e => rfl
      | ok complete => exact r.verdicts_register complete.offer

theorem verdicts_registerItem (r : Registry σ) (offer : Offer) :
    (r.registerItem offer).verdicts = [(r.registerItem offer).value.1.outcome] := by
  have hoffer := r.verdicts_register offer.next
  rw [value_registerItem, BatchResult.outcome_ofOutcome, ← value_register, ← hoffer]
  exact congrArg (List.filterMap Event.outcome?) (r.events_registerItem offer)

theorem verdicts_registerBatch (r : Registry σ) (offers : List Offer) :
    (r.registerBatch offers).verdicts =
      (r.registerBatch offers).value.1.map BatchResult.outcome := by
  induction offers generalizing r with
  | nil => rfl
  | cons offer rest ih =>
      rw [value_registerBatch_cons, registerBatch, verdicts_bind, verdicts_bind, ih,
        verdicts_registerItem]
      exact congrArg (_ :: ·) (List.append_nil _)

theorem verdicts_parse (r : Registry σ) (uri lexicalValue : String) :
    (r.parse uri lexicalValue).verdicts = [] := by
  rw [verdicts, events_parse]
  cases r.get? uri with
  | none => rfl
  | some d =>
      dsimp only
      split <;> rfl

theorem verdicts_isValid (r : Registry σ) (uri lexicalValue : String) :
    (r.isValid uri lexicalValue).verdicts = [] := by
  rw [verdicts, events_isValid]
  exact r.verdicts_parse uri lexicalValue

theorem verdicts_accepts (r : Registry σ) (uri : String) (literal : TypedLiteral) :
    (r.accepts uri literal).verdicts = [] := by
  have hparse := r.verdicts_parse literal.uri literal.lexicalValue
  rw [verdicts] at hparse
  rw [verdicts, events_accepts]
  split
  · rw [List.filterMap_append, hparse]
    cases (r.parse literal.uri literal.lexicalValue).value <;> rfl
  · rfl

theorem verdicts_parsePair (r : Registry σ) (a b : TypedLiteral) :
    (r.parsePair a b).verdicts = [] := by
  have hleft := r.verdicts_parse a.uri a.lexicalValue
  rw [verdicts] at hleft
  rw [verdicts, events_parsePair, List.filterMap_append, hleft]
  cases (r.parse a.uri a.lexicalValue).value with
  | error e => rfl
  | ok left => exact r.verdicts_parse b.uri b.lexicalValue

theorem verdicts_equal (r : Registry σ) (a b : TypedLiteral) : (r.equal a b).verdicts = [] := by
  have hpair := r.verdicts_parsePair a b
  rw [verdicts] at hpair
  rw [verdicts, events_equal, List.filterMap_append, hpair]
  cases (r.parsePair a b).value <;> rfl

theorem verdicts_canonicalise (r : Registry σ) (literal : TypedLiteral) :
    (r.canonicalise literal).verdicts = [] := by
  rw [verdicts, events_canonicalise]
  exact r.verdicts_parse literal.uri literal.lexicalValue

/-- The verdicts on a request are what became of its attempts, as the answer tells. -/
theorem verdicts_step (r : Registry σ) (request : Request) :
    (r.step request).verdicts = (r.step request).value.1.outcomes := by
  cases request with
  | register offer => exact (verdicts_map _ _).trans (r.verdicts_register offer)
  | define definition? => exact (verdicts_map _ _).trans (r.verdicts_define definition?)
  | registerBatch offers => exact (verdicts_map _ _).trans (r.verdicts_registerBatch offers)
  | parse uri lexicalValue => exact (verdicts_map _ _).trans (r.verdicts_parse uri lexicalValue)
  | isValid uri lexicalValue =>
      exact (verdicts_map _ _).trans (r.verdicts_isValid uri lexicalValue)
  | accepts uri literal => exact (verdicts_map _ _).trans (r.verdicts_accepts uri literal)
  | equal a b => exact (verdicts_map _ _).trans (r.verdicts_equal a b)
  | canonicalise literal => exact (verdicts_map _ _).trans (r.verdicts_canonicalise literal)
  | get _ | uris | contains _ | size | isEmpty => rfl

/-- The events of a run. -/
def runEvents (r : Registry σ) (requests : List Request) : List Event :=
  (r.run requests).1.flatMap Recorded.events

theorem runEvents_append (r : Registry σ) (first second : List Request) :
    r.runEvents (first ++ second) = r.runEvents first ++ (r.run first).2.runEvents second := by
  rw [runEvents, run_append, List.flatMap_append]
  rfl

theorem verdicts_runEvents (r : Registry σ) (requests : List Request) :
    (r.runEvents requests).filterMap Event.outcome? =
      (r.run requests).1.flatMap fun answer => answer.value.outcomes := by
  induction requests generalizing r with
  | nil => rfl
  | cons request rest ih =>
      change ((r.step request).events ++ (r.step request).value.2.runEvents rest).filterMap _ = _
      rw [List.filterMap_append, ih]
      exact congrArg (· ++ _) (r.verdicts_step request)

/-- The set-up logs a verdict on the registration of the built-in datatype, if the settings
ask for it, and none otherwise. -/
theorem verdicts_preregister (r : Registry σ) :
    r.preregister.verdicts = (r.runEvents r.settings.opening).filterMap Event.outcome? := by
  unfold preregister Settings.opening
  cases r.settings.preregisterBuiltin with
  | false => rfl
  | true =>
      have hopening := r.verdicts_runEvents [.register Builtin.xsdString]
      simp only [if_true, hopening, verdicts_bind, verdicts_register]
      cases houtcome : (r.register Builtin.xsdString).value.1 <;>
        simp [run, step, Answer.outcomes, houtcome, verdicts]

theorem verdicts_start (store : σ) (settings : Settings) :
    (start store settings).verdicts =
      ((⟨store, settings⟩ : Registry σ).runEvents settings.opening).filterMap Event.outcome? := by
  have hbuiltin := (⟨store, settings⟩ : Registry σ).verdicts_preregister
  unfold start
  rw [verdicts_bind, verdicts_bind, verdicts_bind, hbuiltin]
  cases (⟨store, settings⟩ : Registry σ).preregister.value <;> exact List.append_nil _

/-- Each attempt of a request has an outcome, which is a success only for the datatype that was
bound. One verdict is logged on each, in order, and no other. -/
structure ReportsAttempts (r : Registry σ) (request : Request) : Prop where
  outcomes : List.Forall₂ (fun candidate outcome => ∀ d, outcome = .ok d → candidate = .ok d)
    request.candidates (r.step request).value.1.outcomes
  verdicts : List.Forall₂ Event.Shows ((r.step request).events.filter Event.isVerdict)
    (r.step request).value.1.outcomes

theorem candidate_of_propose_ok {r : Registry σ} {candidate : Except RegistryError Datatype}
    {d : Datatype} (hok : (r.propose candidate).1 = .ok d) : candidate = .ok d := by
  cases candidate with
  | error e => exact hok
  | ok bound =>
      rw [propose_ok] at hok
      cases hinsert : (Store.insert r.store bound).1 with
      | error e =>
          rw [hinsert] at hok
          contradiction
      | ok stored =>
          rw [hinsert] at hok
          exact hok

theorem forall₂_proposeAll (r : Registry σ)
    (candidates : List (Except RegistryError Datatype)) :
    List.Forall₂ (fun candidate outcome => ∀ d, outcome = .ok d → candidate = .ok d)
      candidates (r.proposeAll candidates).1 := by
  induction candidates generalizing r with
  | nil => exact .nil
  | cons candidate rest ih =>
      exact .cons (fun _ hok => candidate_of_propose_ok hok) (ih (r.propose candidate).2)

theorem forall₂_shows (log : List Event) :
    List.Forall₂ Event.Shows (log.filter Event.isVerdict) (log.filterMap Event.outcome?) := by
  induction log with
  | nil => exact .nil
  | cons event rest ih =>
      have hverdict := event.isVerdict_eq
      cases houtcome : event.outcome? with
      | none =>
          rw [houtcome] at hverdict
          have hneg : ¬ event.isVerdict = true := Bool.not_eq_true _ ▸ hverdict
          rw [List.filter_cons_of_neg hneg, List.filterMap_cons_none houtcome]
          exact ih
      | some outcome =>
          rw [houtcome] at hverdict
          rw [List.filter_cons_of_pos hverdict, List.filterMap_cons_some houtcome]
          exact .cons (Event.shows_of_outcome? houtcome) ih

/-- Whatever the store does with a datatype, the attempt is reported. -/
theorem reportsAttempts (r : Registry σ) (request : Request) : r.ReportsAttempts request where
  outcomes := by
    rw [(r.step_proposeAll request).1]
    exact r.forall₂_proposeAll request.candidates
  verdicts := by
    rw [← verdicts_step]
    exact forall₂_shows _

end Verdicts

/-! ## Accounting -/

/-- A log tells of a registry what became of each attempt, how many datatypes there are and
under which URIs, and how many attempts have failed. -/
structure AccountedFor {σ : Type} [Store σ] (r : Registry σ)
    (outcomes : List (Except RegistryError Datatype)) (log : List Event) : Prop where
  verdicts : List.Forall₂ Event.Shows (log.filter Event.isVerdict) outcomes
  size_eq : r.size = log.countP Event.isRegistration
  nodup : (log.filterMap Event.registeredUri?).Nodup
  perm : (log.filterMap Event.registeredUri?).Perm r.uris
  failures : log.countP Event.isWarning = outcomes.countP (!·.isOk)

section Lawful

variable {σ : Type} [Store σ] [EmptyCollection σ] [LawfulStore σ]

theorem perm_uris_propose (r : Registry σ) (candidate : Except RegistryError Datatype) :
    ((Datatype.uriOfOutcome? (r.propose candidate).1).toList ++ r.uris).Perm
      (r.propose candidate).2.uris := by
  cases houtcome : (r.propose candidate).1 with
  | error e =>
      rw [propose_eq_of_error houtcome]
      exact .refl _
  | ok d =>
      obtain ⟨rfl, hfree⟩ := of_propose_ok houtcome
      rw [propose_ok]
      exact (LawfulStore.perm_uris_insert r.store d hfree).symm

open scoped List in
/-- The URIs that are taken are those that were, and those of the attempts that succeeded. -/
theorem perm_uris_proposeAll (r : Registry σ)
    (candidates : List (Except RegistryError Datatype)) :
    ((r.proposeAll candidates).1.filterMap Datatype.uriOfOutcome? ++ r.uris).Perm
      (r.proposeAll candidates).2.uris := by
  induction candidates generalizing r with
  | nil => exact .refl _
  | cons candidate rest ih =>
      let first := r.propose candidate
      let own := (Datatype.uriOfOutcome? first.1).toList
      let later := (first.2.proposeAll rest).1.filterMap Datatype.uriOfOutcome?
      have hfirst : (own ++ r.uris).Perm first.2.uris := r.perm_uris_propose candidate
      have hsplit :
          (r.proposeAll (candidate :: rest)).1.filterMap Datatype.uriOfOutcome? = own ++ later := by
        rw [List.filterMap_eq_flatMap_toList]
        exact List.flatMap_cons.trans (congrArg _ (List.filterMap_eq_flatMap_toList _ _).symm)
      calc (r.proposeAll (candidate :: rest)).1.filterMap Datatype.uriOfOutcome? ++ r.uris
          = own ++ (later ++ r.uris) := by rw [hsplit, List.append_assoc]
        _ ~ later ++ (own ++ r.uris) := List.perm_append_comm_assoc ..
        _ ~ later ++ first.2.uris := hfirst.append_left later
        _ ~ (r.proposeAll (candidate :: rest)).2.uris := ih first.2

/-- A log with one verdict for each candidate, as it was decided on, accounts for the registry
that the candidates lead to from the empty one. -/
theorem accountedFor_proposeAll (settings : Settings)
    (candidates : List (Except RegistryError Datatype)) {log : List Event}
    (hlog : log.filterMap Event.outcome? =
      ((⟨∅, settings⟩ : Registry σ).proposeAll candidates).1) :
    ((⟨∅, settings⟩ : Registry σ).proposeAll candidates).2.AccountedFor
      ((⟨∅, settings⟩ : Registry σ).proposeAll candidates).1 log := by
  generalize hr : (⟨∅, settings⟩ : Registry σ).proposeAll candidates = result at hlog
  have huris : log.filterMap Event.registeredUri? = result.1.filterMap Datatype.uriOfOutcome? := by
    rw [← hlog, List.filterMap_filterMap]
    exact List.filterMap_congr fun event _ => event.registeredUri?_eq
  have hperm : (log.filterMap Event.registeredUri?).Perm result.2.uris := by
    have hgrown := (⟨∅, settings⟩ : Registry σ).perm_uris_proposeAll candidates
    rw [hr, uris_empty, List.append_nil] at hgrown
    rw [huris]
    exact hgrown
  have hnodup : result.2.uris.Nodup :=
    (LawfulStore.uris_ascending result.2.store).imp fun hlt => Std.ne_of_lt hlt
  refine ⟨hlog ▸ forall₂_shows log, ?_, hperm.nodup_iff.mpr hnodup, hperm, ?_⟩
  · have hsize : result.2.size = result.2.uris.length := LawfulStore.size_eq result.2.store
    rw [hsize, ← hperm.length_eq, List.length_filterMap_eq_countP]
    exact List.countP_congr fun event _ => by rw [event.isSome_registeredUri?]
  · rw [← hlog, List.countP_filterMap]
    refine List.countP_congr fun event _ => ?_
    rw [event.isWarning_eq]
    cases event.outcome? <;> rfl

end Lawful

/-- From the set-up on, each attempt to register is logged by one verdict, and the log accounts
for the registry. -/
theorem log_accounts_for_registry (settings : Settings) (requests : List Request) :
    let life := settings.opening ++ requests
    let opened := start (∅ : HashedStore) settings
    let attempts := (⟨∅, settings⟩ : Registry HashedStore).attempts life
    attempts.map Attempt.candidate = life.flatMap Request.candidates ∧
    (∃ r, opened.value = .ok r ∧ (r.run requests).2.AccountedFor
      (attempts.map Attempt.outcome) (opened.events ++ r.runEvents requests)) ∧
    ∀ (τ : Type) [Store τ] (s : Registry τ) (request : Request), s.ReportsAttempts request := by
  intro life opened attempts
  let empty : Registry HashedStore := ⟨∅, settings⟩
  obtain ⟨hcandidates, houtcomes⟩ := empty.map_attempts life
  obtain ⟨hanswers, hlast⟩ := empty.run_proposeAll life
  refine ⟨hcandidates, ⟨(empty.run settings.opening).2, value_start settings, ?_⟩, ?_⟩
  · have hreached : ((empty.run settings.opening).2.run requests).2 =
        (empty.proposeAll (life.flatMap Request.candidates)).2 := by
      rw [← hlast, run_append]
    have hdecided : attempts.map Attempt.outcome =
        (empty.proposeAll (life.flatMap Request.candidates)).1 := houtcomes.trans hanswers
    rw [hreached, hdecided]
    apply accountedFor_proposeAll
    -- The set-up logs the verdicts that its opening requests would have logged.
    rw [← hanswers, ← verdicts_runEvents, runEvents_append, List.filterMap_append,
      List.filterMap_append]
    exact congrArg (· ++ _) (verdicts_start ∅ settings)
  · intro τ _ s request
    exact s.reportsAttempts request

end Registry

end Datatypes
