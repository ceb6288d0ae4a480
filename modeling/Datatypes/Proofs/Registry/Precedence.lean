import Datatypes.Proofs.Registry.Startup
import Datatypes.Proofs.Store.Hashed

/-! # The first registration of a URI stands

Registrations are looked at one attempt at a time, so that the items of a batch count
as earlier and later like requests do. Once an attempt has succeeded, every later one
for the same URI is refused as a duplicate, and questions under the URI are answered
with the rules of the datatype that came first.
-/

namespace Datatypes

/-- An attempt to register a datatype: the candidate, and what became of it. -/
structure Attempt where
  candidate : Except RegistryError Datatype
  outcome : Except RegistryError Datatype

/-- The candidate of the attempt is a datatype bound to the URI. -/
def Attempt.Binds (attempt : Attempt) (uri : String) : Prop :=
  ∃ d, attempt.candidate = .ok d ∧ d.uri = uri

namespace Registry

section Attempts

variable {σ : Type} [Store σ]

/-- The attempts of a run in order, as its requests and its answers tell. -/
def attempts (r : Registry σ) (requests : List Request) : List Attempt :=
  List.zipWith Attempt.mk (requests.flatMap Request.candidates)
    ((r.run requests).1.flatMap fun answer => answer.value.outcomes)

/-- The attempts to which a list of candidates leads. -/
def trail (r : Registry σ) (candidates : List (Except RegistryError Datatype)) : List Attempt :=
  List.zipWith Attempt.mk candidates (r.proposeAll candidates).1

theorem attempts_eq_trail (r : Registry σ) (requests : List Request) :
    r.attempts requests = r.trail (requests.flatMap Request.candidates) := by
  rw [attempts, trail, (r.run_proposeAll requests).1]

theorem trail_cons (r : Registry σ) (candidate : Except RegistryError Datatype)
    (rest : List (Except RegistryError Datatype)) :
    r.trail (candidate :: rest) =
      ⟨candidate, (r.propose candidate).1⟩ :: (r.propose candidate).2.trail rest := rfl

theorem map_trail (r : Registry σ) (candidates : List (Except RegistryError Datatype)) :
    (r.trail candidates).map Attempt.candidate = candidates ∧
      (r.trail candidates).map Attempt.outcome = (r.proposeAll candidates).1 := by
  induction candidates generalizing r with
  | nil => exact ⟨rfl, rfl⟩
  | cons candidate rest ih =>
      obtain ⟨hcandidates, houtcomes⟩ := ih (r.propose candidate).2
      rw [trail_cons, List.map_cons, List.map_cons, hcandidates, houtcomes]
      exact ⟨rfl, rfl⟩

/-- No candidate goes without an outcome, so no attempt is left out. -/
theorem map_attempts (r : Registry σ) (requests : List Request) :
    (r.attempts requests).map Attempt.candidate = requests.flatMap Request.candidates ∧
      (r.attempts requests).map Attempt.outcome =
        (r.run requests).1.flatMap fun answer => answer.value.outcomes := by
  rw [attempts_eq_trail, (r.run_proposeAll requests).1]
  exact r.map_trail _

end Attempts

section Lawful

variable {σ : Type} [Store σ] [EmptyCollection σ] [LawfulStore σ]

/-- While a URI is taken, whatever is bound to it is refused as a duplicate. -/
theorem refused_of_taken {r : Registry σ} {uri : String} {taken : Datatype}
    (htaken : r.get? uri = some taken) {candidates : List (Except RegistryError Datatype)}
    {attempt : Attempt} (hmem : attempt ∈ r.trail candidates) (hbinds : attempt.Binds uri) :
    attempt.outcome = .error (.duplicateUri uri) := by
  induction candidates generalizing r with
  | nil => contradiction
  | cons candidate rest ih =>
      rw [trail_cons] at hmem
      rcases List.mem_cons.mp hmem with rfl | hmem
      · obtain ⟨d, rfl, rfl⟩ := hbinds
        rw [propose_taken htaken]
      · exact ih ((r.extends_propose candidate).get? uri taken htaken) hmem

theorem candidate_of_outcome_ok {r : Registry σ}
    {candidates : List (Except RegistryError Datatype)} {attempt : Attempt}
    (hmem : attempt ∈ r.trail candidates) {d : Datatype} (hok : attempt.outcome = .ok d) :
    attempt.candidate = .ok d := by
  induction candidates generalizing r with
  | nil => contradiction
  | cons candidate rest ih =>
      rw [trail_cons] at hmem
      rcases List.mem_cons.mp hmem with rfl | hmem
      · exact (of_propose_ok hok).1
      · exact ih hmem

/-- After a success for a URI, every attempt to bind something to it is a duplicate. -/
theorem pairwise_trail (r : Registry σ) (candidates : List (Except RegistryError Datatype)) :
    (r.trail candidates).Pairwise fun earlier later =>
      ∀ d, earlier.outcome = .ok d → later.Binds d.uri →
        later.outcome = .error (.duplicateUri d.uri) := by
  induction candidates generalizing r with
  | nil => exact .nil
  | cons candidate rest ih =>
      rw [trail_cons]
      refine .cons ?_ (ih _)
      intro later hlater d hok hbinds
      exact refused_of_taken (holds_of_propose_ok hok) hlater hbinds

/-- What an attempt has registered is held at the end. -/
theorem holds_of_outcome_ok {r : Registry σ} {requests : List Request} {attempt : Attempt}
    (hmem : attempt ∈ r.attempts requests) {d : Datatype} (hok : attempt.outcome = .ok d) :
    (r.run requests).2.Holds d := by
  rw [attempts_eq_trail] at hmem
  rw [(r.run_proposeAll requests).2]
  -- The induction is on the candidates; how they spread over requests is of no account.
  generalize requests.flatMap Request.candidates = candidates at hmem
  induction candidates generalizing r with
  | nil => contradiction
  | cons candidate rest ih =>
      rw [trail_cons] at hmem
      rcases List.mem_cons.mp hmem with rfl | hmem
      · exact (extends_proposeAll _ rest).holds (holds_of_propose_ok hok)
      · exact ih hmem

end Lawful

/-! ## Whose rules answer -/

/-- Questions under the URI of a datatype are answered with its rules. Where another
datatype is involved it is one that the registry holds as well. -/
structure Follows {σ : Type} [Store σ] (r : Registry σ) (d : Datatype) : Prop where
  get? : r.get? d.uri = some d
  parse : ∀ lexicalValue, (r.parse d.uri lexicalValue).value =
    if d.descriptor.isLegal lexicalValue then .ok ⟨d, lexicalValue⟩
    else .error (.illegalLexicalValue lexicalValue d.uri)
  isValid : ∀ lexicalValue,
    (r.isValid d.uri lexicalValue).value = d.descriptor.isLegal lexicalValue
  accepts_own : ∀ lexicalValue,
    (r.accepts d.uri ⟨d.uri, lexicalValue⟩).value = d.descriptor.isLegal lexicalValue
  accepts_from : ∀ e lexicalValue, r.Holds e → e.uri ≠ d.uri →
    (r.accepts d.uri ⟨e.uri, lexicalValue⟩).value =
      (e.descriptor.isLegal lexicalValue && d.takesOver e lexicalValue)
  accepts_into : ∀ e lexicalValue, r.Holds e → d.uri ≠ e.uri →
    (r.accepts e.uri ⟨d.uri, lexicalValue⟩).value =
      (d.descriptor.isLegal lexicalValue && e.takesOver d lexicalValue)
  equal_left : ∀ e x y, r.Holds e → (r.equal ⟨d.uri, x⟩ ⟨e.uri, y⟩).value =
    (d.descriptor.isLegal x && e.descriptor.isLegal y &&
      (decide (TypedLiteral.mk d.uri x = ⟨e.uri, y⟩) ||
        d.descriptor.equals ⟨d.uri, x⟩ ⟨e.uri, y⟩ ||
        r.settings.bidirectionalEquality && e.descriptor.equals ⟨e.uri, y⟩ ⟨d.uri, x⟩))
  equal_right : ∀ e x y, r.Holds e → (r.equal ⟨e.uri, y⟩ ⟨d.uri, x⟩).value =
    (e.descriptor.isLegal y && d.descriptor.isLegal x &&
      (decide (TypedLiteral.mk e.uri y = ⟨d.uri, x⟩) ||
        e.descriptor.equals ⟨e.uri, y⟩ ⟨d.uri, x⟩ ||
        r.settings.bidirectionalEquality && d.descriptor.equals ⟨d.uri, x⟩ ⟨e.uri, y⟩))
  canonicalise : ∀ lexicalValue, (r.canonicalise ⟨d.uri, lexicalValue⟩).value =
    if d.descriptor.isLegal lexicalValue then .ok ⟨d.uri, d.canonicalValue lexicalValue⟩
    else .error (.illegalLexicalValue lexicalValue d.uri)
  /-- Whatever is asked, the rules consulted under the URI are those of the datatype. -/
  consulted : ∀ request, ∀ consultation ∈ (r.step request).consultations,
    consultation.1.uri = d.uri → consultation.1 = d

theorem Holds.follows {σ : Type} [Store σ] {r : Registry σ} (hfiled : r.Filed) {d : Datatype}
    (hd : r.Holds d) : r.Follows d where
  get? := hd
  parse := hd.parse
  isValid := hd.isValid
  accepts_own := hd.accepts_own
  accepts_from _ lexicalValue he hne := hd.accepts_other he hne lexicalValue
  accepts_into _ lexicalValue he hne := he.accepts_other hd hne lexicalValue
  equal_left _ x y he := hd.equal he x y
  equal_right _ x y he := he.equal hd y x
  canonicalise := hd.canonicalise
  consulted request consultation hmem huri := by
    have hregistered : (r.step request).OnlyConsults r.Holds :=
      onlyConsults_step (fun _ _ hget => hfiled.holds hget) request
    exact hd.eq_of_uri_eq (hregistered consultation hmem) huri

/-- A registry is run, with or without having been set up. Whatever an attempt has
registered by some point, the set-up included, is what the registry follows under that
URI from then on. No later attempt for the URI succeeds: if it binds a datatype to the
URI, it is refused as a duplicate. The attempts are all that the requests propose and
the answers report. -/
theorem first_registration_stands (settings : Settings) (setUp : Bool)
    (before after : List Request) :
    let empty : Registry HashedStore := ⟨∅, settings⟩
    let early := (if setUp then settings.opening else []) ++ before
    let life := early ++ after
    (start (∅ : HashedStore) settings).value = .ok (empty.run settings.opening).2 ∧
    ((empty.attempts life).map Attempt.candidate = life.flatMap Request.candidates ∧
      (empty.attempts life).map Attempt.outcome =
        (empty.run life).1.flatMap fun answer => answer.value.outcomes) ∧
    (∀ attempt ∈ empty.attempts early, ∀ d, attempt.outcome = .ok d →
      (empty.run life).2.Follows d) ∧
    (empty.attempts life).Pairwise (fun earlier later => ∀ d, earlier.outcome = .ok d →
      (later.Binds d.uri → later.outcome = .error (.duplicateUri d.uri)) ∧
      ∀ other, later.outcome = .ok other → other.uri ≠ d.uri) := by
  intro empty early life
  refine ⟨value_start settings, empty.map_attempts life, ?_, ?_⟩
  · -- What has been registered early is held early, and what is held stays.
    intro attempt hmem d hok
    have hheld : (empty.run early).2.Holds d := holds_of_outcome_ok hmem hok
    have hextends : (empty.run early).2.Extends (empty.run life).2 := by
      change (empty.run early).2.Extends (empty.run (early ++ after)).2
      rw [run_append empty early after]
      exact extends_run _ after
    exact (hextends.holds hheld).follows (filed_run settings life)
  · rw [attempts_eq_trail]
    refine (pairwise_trail empty _).imp_of_mem ?_
    intro earlier later _ hlater hrefused d hok
    refine ⟨hrefused d hok, ?_⟩
    -- A second success would have bound the URI, and so would have been refused.
    intro other hother huri
    have hbinds : later.Binds d.uri := ⟨other, candidate_of_outcome_ok hlater hother, huri⟩
    rw [hrefused d hok hbinds] at hother
    contradiction

end Registry

end Datatypes
