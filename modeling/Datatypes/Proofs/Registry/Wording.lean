import Datatypes.Builtin
import Datatypes.Proofs.Registry.Candidates
import Datatypes.Proofs.Registry.Clients
import Datatypes.Store.Ordered

/-! # Failures in other words

A failure is worded in one way inside a registry and in another for its users. It is of
the same kind in both and names the same things, so that nothing is lost on the way to a
client, however often a failure is reworded.
-/

namespace Datatypes

/-- What kind of failure a cause is, without what it names. -/
inductive FailureKind where
  | missingArgument
  | invalidShape
  | duplicateUri
  | illegalLexicalValue
  | unknownDatatype
  | internal
deriving DecidableEq

namespace DatatypeError

def kind : DatatypeError → FailureKind
  | missingArgument => .missingArgument
  | invalidShape _ => .invalidShape
  | duplicateUri _ => .duplicateUri
  | illegalLexicalValue _ _ => .illegalLexicalValue
  | unknownDatatype _ => .unknownDatatype
  | internal _ => .internal

/-- The texts that a cause names, in order. -/
def payload : DatatypeError → List String
  | missingArgument => []
  | invalidShape field => [field]
  | duplicateUri uri => [uri]
  | illegalLexicalValue lexicalValue uri => [lexicalValue, uri]
  | unknownDatatype uri => [uri]
  | internal message => [message]

end DatatypeError

namespace RegistryError

def kind : RegistryError → FailureKind
  | missingArgument => .missingArgument
  | invalidShape _ => .invalidShape
  | duplicateUri _ => .duplicateUri
  | illegalLexicalValue _ _ => .illegalLexicalValue
  | unknownDatatype _ => .unknownDatatype
  | internal _ => .internal

/-- The texts that a cause names, in order. -/
def payload : RegistryError → List String
  | missingArgument => []
  | invalidShape field => [field]
  | duplicateUri uri => [uri]
  | illegalLexicalValue lexicalValue uri => [lexicalValue, uri]
  | unknownDatatype uri => [uri]
  | internal message => [message]

theorem kind_toDatatypeError (e : RegistryError) : e.toDatatypeError.kind = e.kind := by
  cases e <;> rfl

theorem payload_toDatatypeError (e : RegistryError) : e.toDatatypeError.payload = e.payload := by
  cases e <;> rfl

end RegistryError

/-- Rewording a failure keeps its kind and what it names, and rewording it back gives the
failure that it was. -/
structure KeptByRewording : Prop where
  kind : ∀ e : RegistryError, e.toDatatypeError.kind = e.kind
  payload : ∀ e : RegistryError, e.toDatatypeError.payload = e.payload
  /-- A failure in the users' words comes back as it was. -/
  from_users : ∀ e : DatatypeError, (RegistryError.ofDatatypeError e).toDatatypeError = e
  from_registry : ∀ e : RegistryError,
    (RegistryError.ofDatatypeError e.toDatatypeError).kind = e.kind ∧
      (RegistryError.ofDatatypeError e.toDatatypeError).payload = e.payload ∧
      (RegistryError.ofDatatypeError e.toDatatypeError).message = e.message

theorem keptByRewording : KeptByRewording where
  kind := RegistryError.kind_toDatatypeError
  payload := RegistryError.payload_toDatatypeError
  from_users := RegistryError.toDatatypeError_ofDatatypeError
  from_registry e := by
    rw [RegistryError.ofDatatypeError_toDatatypeError]
    exact ⟨rfl, rfl, rfl⟩

namespace Client

variable {σ : Type} [Store σ]

/-- A client's parse gives what the registered datatype constructs. The registry rewords a
failure of the construction, and the client rewords it back. -/
theorem value_parse (c : Client σ) (uri lexicalValue : String) :
    (c.parse uri lexicalValue).value =
      match c.get? uri with
      | none => .error (.unknownDatatype uri)
      | some d => (d.construct lexicalValue).value := by
  change (c.registry.parse uri lexicalValue).value.mapError RegistryError.toDatatypeError = _
  unfold Registry.parse get?
  cases c.registry.get? uri with
  | none => rfl
  | some d =>
      simp only [Recorded.value_bind]
      cases (d.construct lexicalValue).value with
      | ok literal => rfl
      | error e => exact congrArg Except.error (RegistryError.toDatatypeError_ofDatatypeError e)

theorem value_register (c : Client σ) (offer : Offer) :
    (c.register offer).value = ofRegistration (c.registry.propose offer.candidate) := by
  rw [← c.registry.value_register]
  rfl

/-- A stable offer in a batch of its own is the candidate that it is in a single call. -/
theorem value_registerBatch_singleton (c : Client σ) {offer : Offer} (hstable : offer.Stable) :
    (c.registerBatch [offer]).value =
      ([.ofOutcome offer.attempted? (c.registry.propose offer.candidate).1],
        ⟨(c.registry.propose offer.candidate).2⟩) := by
  have hbatch : (c.registerBatch [offer]).value =
      ([(c.registry.registerItem offer).value.1], ⟨(c.registry.registerItem offer).value.2⟩) := rfl
  rw [hbatch, Registry.value_registerItem, hstable.candidate_next]

/-- What a client answers in some state, in terms of the datatypes that it knows. -/
structure WordsFaithfully (c : Client σ) : Prop where
  parse_unknown : ∀ uri lexicalValue, c.get? uri = none →
    (c.parse uri lexicalValue).value = .error (.unknownDatatype uri)
  parse_known : ∀ uri lexicalValue d, c.get? uri = some d →
    (c.parse uri lexicalValue).value = (d.construct lexicalValue).value
  /-- The error of a stable offer is the same in a batch of its own and in a single call. -/
  batch_of_one : ∀ offer : Offer, offer.Stable → ∃ result,
    (c.registerBatch [offer]).value = ([result], (c.register offer).value.2) ∧
      ∀ e, result.error? = some e ↔ (c.register offer).value.1 = .error e

theorem wordsFaithfully (c : Client σ) : c.WordsFaithfully where
  parse_unknown uri lexicalValue hnone := by rw [value_parse, hnone]
  parse_known uri lexicalValue d hsome := by rw [value_parse, hsome]
  batch_of_one offer hstable := by
    rw [value_register]
    refine ⟨_, c.value_registerBatch_singleton hstable, ?_⟩
    intro e
    unfold ofRegistration
    cases (c.registry.propose offer.candidate).1 with
    | ok d => exact ⟨nofun, nofun⟩
    | error cause =>
        constructor
        · intro hbatch
          exact congrArg Except.error (Option.some.inj hbatch)
        · intro hregister
          exact congrArg some (Except.error.inj hregister)

/-- A client answers every request of a run as its registry does, with the same journal, and
reaches the same registry. The failures alone are reworded, and nothing is lost by that: so
in every state that is reached the answers are those of the registered datatypes. -/
theorem client_rewords_only (r : Registry σ) (requests : List Request) :
    let reached := (⟨r⟩ : Client σ).run requests
    reached =
        ((r.run requests).1.map fun answered =>
            ⟨answered.value.mapError RegistryError.toDatatypeError, answered.journal⟩,
          ⟨(r.run requests).2⟩) ∧
      KeptByRewording ∧ reached.2.WordsFaithfully := by
  intro reached
  exact ⟨run_eq r requests, keptByRewording, reached.2.wordsFaithfully⟩

/-- Strings are offered to a client that knows them. The failure is the same in a single call
and in a batch, and the client does not know of digits. -/
theorem client_rewords_only_second_offer :
    let c := ((⟨⟨∅, {}⟩⟩ : Client OrderedStore).run [.register Builtin.xsdString]).2
    Builtin.xsdString.Stable ∧
      (c.register Builtin.xsdString).value.1 = .error (.duplicateUri Builtin.xsdStringUri) ∧
      (∃ result, (c.registerBatch [Builtin.xsdString]).value =
          ([result], (c.register Builtin.xsdString).value.2) ∧
        result.error? = some (.duplicateUri Builtin.xsdStringUri)) ∧
      c.get? "urn:digit" = none ∧
      (c.parse "urn:digit" "1").value = .error (.unknownDatatype "urn:digit") := by
  intro c
  obtain ⟨-, -, hwords⟩ :=
    client_rewords_only (⟨∅, {}⟩ : Registry OrderedStore) [.register Builtin.xsdString]
  have hstable : Builtin.xsdString.Stable := .fixed _ _
  have hrefused : (c.register Builtin.xsdString).value.1 =
      .error (.duplicateUri Builtin.xsdStringUri) := rfl
  have hunknown : c.get? "urn:digit" = none := rfl
  obtain ⟨result, hbatch, herror⟩ := hwords.batch_of_one Builtin.xsdString hstable
  exact ⟨hstable, hrefused, ⟨result, hbatch, (herror _).mpr hrefused⟩, hunknown,
    hwords.parse_unknown "urn:digit" "1" hunknown⟩

end Client

end Datatypes
