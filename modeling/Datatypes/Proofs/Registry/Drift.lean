import Datatypes.Proofs.Registry.Locality
import Datatypes.Proofs.Registry.Sessions
import Mathlib.Data.List.Forall2

/-! # Drift of a URI after the binding

The author of an offer may give another URI each time that he is asked. What is done with an
offer draws on one answer, or two, or three, depending on how it is registered, and on some
of these only for whether they are empty. One answer is bound; it is the URI of the datatype
wherever that shows. The answers after it are not kept with the datatype, so nothing that is
done with a datatype or a literal can depend on them. Users see the same of any two sessions that
agree on the answers that are drawn.
-/

namespace Datatypes

/-! ## What is drawn from an offer -/

namespace Offer

/-- Binding cannot tell the offers apart: it draws the first answer. -/
structure BindsAlike (offer offer' : Offer) : Prop where
  descriptor : offer'.descriptor = offer.descriptor
  bound : offer'.uriAnswer 0 = offer.uriAnswer 0

/-- A single registration cannot tell the offers apart: it draws from the first answer whether
it is empty, and, if it is not, the second answer. -/
structure RegistersAlike (offer offer' : Offer) : Prop where
  descriptor : offer'.descriptor = offer.descriptor
  checked : offer'.uriAnswer 0 = "" ↔ offer.uriAnswer 0 = ""
  bound : offer.uriAnswer 0 ≠ "" → offer'.uriAnswer 1 = offer.uriAnswer 1

/-- A batch cannot tell the offers apart: it draws the first answer, from the second whether
it is empty, and, if it is not, the third answer. -/
structure BatchesAlike (offer offer' : Offer) : Prop where
  descriptor : offer'.descriptor = offer.descriptor
  attempted : offer'.uriAnswer 0 = offer.uriAnswer 0
  checked : offer'.uriAnswer 1 = "" ↔ offer.uriAnswer 1 = ""
  bound : offer.uriAnswer 1 ≠ "" → offer'.uriAnswer 2 = offer.uriAnswer 2

variable {offer offer' : Offer}

theorem BindsAlike.bind_eq (halike : offer.BindsAlike offer') : offer'.bind = offer.bind := by
  rw [bind, uri, halike.bound, halike.descriptor]
  rfl

/-- An item of a batch is a single registration of the offer that is left when the URI to
report has been drawn. -/
theorem BatchesAlike.next (halike : offer.BatchesAlike offer') :
    offer.next.RegistersAlike offer'.next :=
  ⟨halike.descriptor, halike.checked, halike.bound⟩

theorem BatchesAlike.attempted?_eq (halike : offer.BatchesAlike offer') :
    offer'.attempted? = offer.attempted? := by
  rw [attempted?, uri, halike.attempted]
  rfl

end Offer

/-- The requests are the same, except that their offers differ in answers that are not
drawn. -/
inductive Request.DrawsAlike : Request → Request → Prop where
  | same (request : Request) : DrawsAlike request request
  | register {offer offer' : Offer} (halike : offer.RegistersAlike offer') :
    DrawsAlike (.register offer) (.register offer')
  | registerBatch {offers offers' : List Offer}
    (halike : List.Forall₂ Offer.BatchesAlike offers offers') :
    DrawsAlike (.registerBatch offers) (.registerBatch offers')

/-- So are the acts. -/
inductive Act.DrawsAlike : Act → Act → Prop where
  | same (act : Act) : DrawsAlike act act
  | ask {request request' : Request} (halike : request.DrawsAlike request') :
    DrawsAlike (.ask request) (.ask request')
  | bind {offer offer' : Offer} (halike : offer.BindsAlike offer') :
    DrawsAlike (.bind offer) (.bind offer')

namespace Registry

variable {σ : Type} [Store σ]

theorem register_congr (r : Registry σ) {offer offer' : Offer}
    (halike : offer.RegistersAlike offer') : r.register offer' = r.register offer := by
  unfold register
  by_cases hempty : offer.uri = ""
  · have hempty' : offer'.uri = "" := halike.checked.mpr hempty
    rw [if_pos hempty, if_pos hempty']
  · have hempty' : offer'.uri ≠ "" := fun h => hempty (halike.checked.mp h)
    have hnext : offer.next.BindsAlike offer'.next := ⟨halike.descriptor, halike.bound hempty⟩
    rw [if_neg hempty, if_neg hempty', hnext.bind_eq]

theorem registerItem_congr (r : Registry σ) {offer offer' : Offer}
    (halike : offer.BatchesAlike offer') : r.registerItem offer' = r.registerItem offer := by
  unfold registerItem
  rw [r.register_congr halike.next, halike.attempted?_eq]

theorem registerBatch_congr (r : Registry σ) {offers offers' : List Offer}
    (halike : List.Forall₂ Offer.BatchesAlike offers offers') :
    r.registerBatch offers' = r.registerBatch offers := by
  induction halike generalizing r with
  | nil => rfl
  | cons hoffer _ ih => simp only [registerBatch, r.registerItem_congr hoffer, ih]

theorem step_congr (r : Registry σ) {request request' : Request}
    (halike : request.DrawsAlike request') : r.step request' = r.step request := by
  cases halike with
  | same => rfl
  | register hoffer => simp only [step, r.register_congr hoffer]
  | registerBatch hoffers => simp only [step, r.registerBatch_congr hoffers]

end Registry

/-! ## What users see -/

/-- What users get to see of an act. -/
inductive Reply where
  | answered (answer : Recorded (Answer RegistryError))
  | datatype (d? : Option Datatype)
  | constructed (result? : Option (Recorded (Except DatatypeError Literal)))
  | canonical (result? : Option (Recorded Literal))
  | copied (l? : Option Literal)

namespace Session

variable {σ : Type} [Store σ]

/-- What users get to see of an act; nothing if it is on something that is not there. -/
def reply (s : Session σ) : Act → Reply
  | .ask request => .answered (s.registry.answer request)
  | .bind offer => .datatype (some offer.bind)
  | .datatypeOf literal => .datatype (s.literals[literal]?.map Literal.datatype)
  | .construct datatype lexicalValue =>
      .constructed (s.datatypes[datatype]?.map (·.construct lexicalValue))
  | .canonicalise literal => .canonical (s.literals[literal]?.map Literal.canonicalise)
  | .copy literal => .copied s.literals[literal]?

/-- What users get to see of one act after the other. -/
def replies (s : Session σ) : List Act → List Reply
  | [] => []
  | act :: rest => s.reply act :: (s.step act).replies rest

theorem reply_congr (s : Session σ) {act act' : Act} (halike : act.DrawsAlike act') :
    s.reply act' = s.reply act := by
  cases halike with
  | same => rfl
  | ask hrequest => simp only [reply, Registry.answer, s.registry.step_congr hrequest]
  | bind hoffer => simp only [reply, hoffer.bind_eq]

theorem step_congr (s : Session σ) {act act' : Act} (halike : act.DrawsAlike act') :
    s.step act' = s.step act := by
  cases halike with
  | same => rfl
  | ask hrequest =>
      simp only [step, newDatatypes, newLiterals, Act.request?,
        s.registry.step_congr hrequest]
  | bind hoffer => simp only [step, newDatatypes, newLiterals, Act.request?, hoffer.bind_eq]

/-- Answers that are not drawn show in no reply, and leave no mark on what users hold. -/
theorem run_congr (s : Session σ) {acts acts' : List Act}
    (halike : List.Forall₂ Act.DrawsAlike acts acts') :
    s.replies acts' = s.replies acts ∧ s.run acts' = s.run acts := by
  induction halike generalizing s with
  | nil => exact ⟨rfl, rfl⟩
  | @cons act act' rest rest' hact _ ih =>
      obtain ⟨hreplies, hlast⟩ := ih (s.step act)
      have hstep := s.step_congr hact
      refine ⟨?_, ?_⟩
      · rw [replies, replies, s.reply_congr hact, hstep, hreplies]
      · change (s.step act').run rest' = (s.step act).run rest
        rw [hstep, hlast]

end Session

/-! ## The URI that is bound -/

/-- The datatype and its literals go by the URI, in errors and in the log as well. -/
structure Datatype.KnownAs (d : Datatype) (uri : String) : Prop where
  uri_eq : d.uri = uri
  id_eq : d.id = Identifier.ofName Identifier.urlNamespace uri
  construct_ok : ∀ lexicalValue l, (d.construct lexicalValue).value = .ok l →
    l.datatype = d ∧ l.lexicalValue = lexicalValue
  construct_error : ∀ lexicalValue e, (d.construct lexicalValue).value = .error e →
    e = .illegalLexicalValue lexicalValue uri
  literal : ∀ l : Literal, l.datatype = d → l.uri = uri ∧ l.toTyped = ⟨uri, l.lexicalValue⟩ ∧
    l.canonicalise.value.uri = uri
  logged : (Event.registered d).fields =
    [("uri", uri), ("datatype_id", (Identifier.ofName Identifier.urlNamespace uri).text)]

theorem Datatype.knownAs_uri (d : Datatype) : d.KnownAs d.uri where
  uri_eq := rfl
  id_eq := rfl
  construct_ok lexicalValue l hconstruct := by
    rw [value_construct] at hconstruct
    split at hconstruct
    · cases hconstruct
      exact ⟨rfl, rfl⟩
    · contradiction
  construct_error lexicalValue e hconstruct := by
    rw [value_construct] at hconstruct
    split at hconstruct
    · contradiction
    · exact (Except.error.inj hconstruct).symm
  literal l hl := by
    subst hl
    refine ⟨rfl, rfl, ?_⟩
    rw [Literal.value_canonicalise]
    rfl
  logged := rfl

namespace Registry

variable {σ : Type} [Store σ]

/-- Each way to come by a datatype binds one of the answers of the offer, and it is the URI
under which the registry holds, logs and refuses the datatype. -/
structure GoesByBoundUri (r : Registry σ) : Prop where
  bind : ∀ offer : Offer, offer.bind.KnownAs (offer.uriAnswer 0)
  register_ok : ∀ offer d, (r.register offer).value.1 = .ok d →
    d.KnownAs (offer.uriAnswer 1) ∧
      (r.register offer).value.2.get? (offer.uriAnswer 1) = some d ∧
      (r.register offer).events = [.registered d]
  register_error : ∀ offer e, offer.uriAnswer 0 ≠ "" →
    (r.register offer).value.1 = .error e →
      e = .duplicateUri (offer.uriAnswer 1) ∧
        (r.register offer).events = [.registrationRejected (offer.uriAnswer 1) e]
  item_ok : ∀ offer d, (r.registerItem offer).value.1 = .registered d →
    d.KnownAs (offer.uriAnswer 2) ∧
      (r.registerItem offer).value.2.get? (offer.uriAnswer 2) = some d ∧
      (r.registerItem offer).events = [.registered d]
  /-- The URI that is reported with a failed item is the one that was drawn for the report. -/
  item_failed : ∀ offer uri? e, (r.registerItem offer).value.1 = .failed uri? e →
    uri? = (if offer.uriAnswer 0 = "" then none else some (offer.uriAnswer 0)) ∧
      (offer.uriAnswer 1 ≠ "" → e = .duplicateUri (offer.uriAnswer 2) ∧
        (r.registerItem offer).events =
          [.registrationRejected (offer.uriAnswer 2) (.duplicateUri (offer.uriAnswer 2))])
  key : ∀ uri d, r.get? uri = some d → d.KnownAs uri
  /-- The datatype refuses lexical values in the log under that URI too. -/
  refused : ∀ uri d lexicalValue, r.get? uri = some d →
    d.descriptor.isLegal lexicalValue = false →
      (r.parse uri lexicalValue).events = [.illegalLexicalValue d.uri lexicalValue]

section Lawful

variable [EmptyCollection σ] [LawfulStore σ]

theorem knownAs_of_register_ok {r : Registry σ} {offer : Offer} {d : Datatype}
    (hok : (r.register offer).value.1 = .ok d) :
    d.KnownAs (offer.uriAnswer 1) ∧
      (r.register offer).value.2.get? (offer.uriAnswer 1) = some d ∧
      (r.register offer).events = [.registered d] := by
  by_cases hempty : offer.uri = ""
  · rw [register, if_pos hempty] at hok
    contradiction
  · rw [register, if_neg hempty] at hok ⊢
    obtain ⟨rfl, hget, hevents⟩ := insert_ok hok
    exact ⟨Datatype.knownAs_uri _, hget, hevents⟩

theorem duplicate_of_register_error {r : Registry σ} {offer : Offer} {e : RegistryError}
    (hchecked : offer.uriAnswer 0 ≠ "") (herror : (r.register offer).value.1 = .error e) :
    e = .duplicateUri (offer.uriAnswer 1) ∧
      (r.register offer).events = [.registrationRejected (offer.uriAnswer 1) e] := by
  have hne : offer.uri ≠ "" := hchecked
  rw [register, if_neg hne] at herror ⊢
  exact insert_error herror

theorem Filed.goesByBoundUri {r : Registry σ} (hfiled : r.Filed) : r.GoesByBoundUri where
  bind offer := offer.bind.knownAs_uri
  register_ok _ _ hok := knownAs_of_register_ok hok
  register_error _ _ hchecked herror := duplicate_of_register_error hchecked herror
  item_ok offer d hregistered := by
    have hok : (r.register offer.next).value.1 = .ok d := by
      rw [value_registerItem, ← value_register] at hregistered
      cases houtcome : (r.register offer.next).value.1 with
      | error e =>
          rw [houtcome] at hregistered
          contradiction
      | ok registered =>
          rw [houtcome] at hregistered
          injection hregistered with hsame
          rw [hsame]
    obtain ⟨hknown, hget, hevents⟩ := knownAs_of_register_ok hok
    refine ⟨hknown, ?_, (r.events_registerItem offer).trans hevents⟩
    rw [value_registerItem, ← value_register]
    exact hget
  item_failed offer uri? e hfailed := by
    rw [value_registerItem, ← value_register] at hfailed
    cases houtcome : (r.register offer.next).value.1 with
    | ok registered =>
        rw [houtcome] at hfailed
        contradiction
    | error cause =>
        rw [houtcome] at hfailed
        injection hfailed with huri herror
        refine ⟨huri.symm, ?_⟩
        intro hchecked
        obtain ⟨rfl, hevents⟩ := duplicate_of_register_error hchecked houtcome
        exact ⟨herror.symm, (r.events_registerItem offer).trans hevents⟩
  key uri d hget := by
    rw [← hfiled uri d hget]
    exact d.knownAs_uri
  refused uri d lexicalValue hget hillegal := by
    rw [events_parse, hget]
    simp only [hillegal, hfiled uri d hget]
    rfl

end Lawful

end Registry

namespace Session

/-- Two sessions differ only in answers of offers that are not drawn. They show users the
same and leave them with the same, and the URI that goes with a datatype is the answer that
was bound. -/
theorem drift_shows_nowhere (settings : Settings) {acts acts' : List Act}
    (halike : List.Forall₂ Act.DrawsAlike acts acts') :
    let s : Session HashedStore := empty settings
    s.replies acts' = s.replies acts ∧ s.run acts' = s.run acts ∧
      (s.run acts).registry.GoesByBoundUri := by
  intro s
  obtain ⟨hreplies, hlast⟩ := s.run_congr halike
  exact ⟨hreplies, hlast, (filed_run settings acts).goesByBoundUri⟩

/-- An offer is registered, one is bound, and one comes in a batch. Each of them goes on to
answer something else. -/
theorem drift_shows_nowhere_three_ways :
    let offer := fun first rest => Offer.ofList first rest Builtin.xsdStringDescriptor
    let acts := [Act.ask (.register (offer "urn:x" ["urn:a"])), .bind (offer "urn:b" []),
      .ask (.registerBatch [offer "urn:c" ["urn:y", "urn:d"]])]
    let acts' := [Act.ask (.register (offer "urn:z" ["urn:a", ""])),
      .bind (offer "urn:b" ["urn:w"]),
      .ask (.registerBatch [offer "urn:c" ["urn:v", "urn:d", "urn:e"]])]
    let s : Session HashedStore := empty {}
    List.Forall₂ Act.DrawsAlike acts acts' ∧ s.replies acts' = s.replies acts := by
  intro offer acts acts' s
  have hsingle : (offer "urn:x" ["urn:a"]).RegistersAlike (offer "urn:z" ["urn:a", ""]) :=
    ⟨rfl, by decide, fun _ => rfl⟩
  have hbound : (offer "urn:b" []).BindsAlike (offer "urn:b" ["urn:w"]) := ⟨rfl, rfl⟩
  have hitem : (offer "urn:c" ["urn:y", "urn:d"]).BatchesAlike
      (offer "urn:c" ["urn:v", "urn:d", "urn:e"]) := ⟨rfl, rfl, by decide, fun _ => rfl⟩
  have halike : List.Forall₂ Act.DrawsAlike acts acts' :=
    .cons (.ask (.register hsingle)) (.cons (.bind hbound)
      (.cons (.ask (.registerBatch (.cons hitem .nil))) .nil))
  exact ⟨halike, (drift_shows_nowhere {} halike).1⟩

end Session

end Datatypes
