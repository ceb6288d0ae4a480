import Datatypes.Proofs.Registry.Growth
import Datatypes.Proofs.Store.Hashed

/-! # What becomes of a definition

A definition passes five checks, and the first that it fails is reported. The shape is checked
before the registry is looked at, so a definition that lacks a part is turned away for that even
if its URI is taken. A complete one goes the way of every offer; its URI is not empty and does not
change, so the check of offers for the empty URI has nothing left to find.
-/

namespace Datatypes

/-! ## Complete definitions -/

namespace Definition

variable {definition : Definition} {uri : String}

theorem usableUri?_of_unusable (hunusable : definition.uri? = none ∨ definition.uri? = some "") :
    definition.usableUri? = none := by
  unfold usableUri?
  rcases hunusable with hmissing | hempty
  · rw [hmissing]
  · rw [hempty]
    rfl

theorem usableUri?_of_ne_empty (huri : definition.uri? = some uri) (hne : uri ≠ "") :
    definition.usableUri? = some ⟨uri, hne⟩ := by
  unfold usableUri?
  rw [huri]
  exact dif_pos hne

/-- The datatype that a definition stands for once its necessary parts are given. -/
def bound (definition : Definition) (uri : String) (isLegal : String → Bool)
    (equals : TypedLiteral → TypedLiteral → Bool) : Datatype where
  uri
  descriptor :=
    { isLegal, equals
      importFrom? := definition.importFrom?
      exportTo? := definition.exportTo?
      label? := definition.label? }

/-- All the necessary parts are given, and the URI is not empty. -/
structure Gives (definition : Definition) (uri : String) (isLegal : String → Bool)
    (equals : TypedLiteral → TypedLiteral → Bool) : Prop where
  given : definition.uri? = some uri
  ne_empty : uri ≠ ""
  legality : definition.isLegal? = some isLegal
  equality : definition.equals? = some equals

end Definition

/-- The offer of a complete definition passes the check for the empty URI. -/
theorem CompleteDefinition.candidate_offer (complete : CompleteDefinition) :
    complete.offer.candidate = .ok ⟨complete.uri, complete.descriptor⟩ := by
  rw [offer, (Offer.Stable.fixed _ _).candidate_eq]
  exact if_neg complete.uri_ne_empty

theorem Definition.Gives.candidate_eq {definition : Definition} {uri : String}
    {isLegal : String → Bool} {equals : TypedLiteral → TypedLiteral → Bool}
    (hgives : definition.Gives uri isLegal equals) :
    candidate (some definition) = .ok (definition.bound uri isLegal equals) := by
  simp only [candidate, complete, usableUri?_of_ne_empty hgives.given hgives.ne_empty,
    hgives.legality, hgives.equality, CompleteDefinition.candidate_offer]
  rfl

/-- A datatype answers with the rules of a definition. Where the definition gives no conversion
there is none, and every value is its own canonical form. -/
structure Datatype.Follows (d : Datatype) (definition : Definition) : Prop where
  uri : definition.uri? = some d.uri
  isLegal : definition.isLegal? = some d.descriptor.isLegal
  equals : definition.equals? = some d.descriptor.equals
  imported : ∀ other, d.imported? other = definition.importFrom?.bind fun convert => convert other
  exported : ∀ this target,
    d.exported? this target = definition.exportTo?.bind fun convert => convert this target
  canonicalForm : ∀ lexicalValue, d.descriptor.canonicalForm lexicalValue = lexicalValue

namespace Registry

variable {σ : Type} [Store σ]

/-! ## The checks in order -/

/-- What becomes of a definition, by the first check that it fails. -/
inductive Judged (r : Registry σ) :
    Option Definition → Except RegistryError Datatype → Prop where
  | missing : Judged r none (.error .missingArgument)
  | noUri {definition : Definition}
      (unusable : definition.uri? = none ∨ definition.uri? = some "") :
      Judged r (some definition) (.error (.invalidShape "uri"))
  | noLegality {definition : Definition} {uri : String} (given : definition.uri? = some uri)
      (ne_empty : uri ≠ "") (lacking : definition.isLegal? = none) :
      Judged r (some definition) (.error (.invalidShape "isLegal"))
  | noEquality {definition : Definition} {uri : String} {isLegal : String → Bool}
      (given : definition.uri? = some uri) (ne_empty : uri ≠ "")
      (legality : definition.isLegal? = some isLegal) (lacking : definition.equals? = none) :
      Judged r (some definition) (.error (.invalidShape "equals"))
  | taken {definition : Definition} {uri : String} {isLegal : String → Bool}
      {equals : TypedLiteral → TypedLiteral → Bool}
      (complete : definition.Gives uri isLegal equals) (registered : (r.get? uri).isSome) :
      Judged r (some definition) (.error (.duplicateUri uri))
  | free {definition : Definition} {uri : String} {isLegal : String → Bool}
      {equals : TypedLiteral → TypedLiteral → Bool}
      (complete : definition.Gives uri isLegal equals) (unregistered : r.get? uri = none) :
      Judged r (some definition) (.ok (definition.bound uri isLegal equals))

namespace Judged

variable {r : Registry σ} {definition? : Option Definition}

/-- The checks leave no definition out. -/
theorem exists_result (r : Registry σ) (definition? : Option Definition) :
    ∃ result, r.Judged definition? result := by
  cases definition? with
  | none => exact ⟨_, .missing⟩
  | some definition =>
      by_cases hunusable : definition.uri? = none ∨ definition.uri? = some ""
      · exact ⟨_, .noUri hunusable⟩
      · obtain ⟨hmissing, hempty⟩ := not_or.mp hunusable
        obtain ⟨uri, huri⟩ := Option.ne_none_iff_exists'.mp hmissing
        have hne : uri ≠ "" := fun heq => hempty (heq ▸ huri)
        cases hlegality : definition.isLegal? with
        | none => exact ⟨_, .noLegality huri hne hlegality⟩
        | some isLegal =>
            cases hequality : definition.equals? with
            | none => exact ⟨_, .noEquality huri hne hlegality hequality⟩
            | some equals =>
                have hgives : definition.Gives uri isLegal equals :=
                  ⟨huri, hne, hlegality, hequality⟩
                cases hget : r.get? uri with
                | none => exact ⟨_, .free hgives hget⟩
                | some taken => exact ⟨_, .taken hgives (Option.isSome_of_eq_some hget)⟩

variable [EmptyCollection σ] [LawfulStore σ]

/-- It is the first failed check that is reported. -/
theorem value_define {result : Except RegistryError Datatype}
    (hjudged : r.Judged definition? result) : (r.define definition?).value.1 = result := by
  rw [Registry.value_define]
  cases hjudged with
  | missing => rfl
  | noUri hunusable =>
      simp only [Definition.candidate, Definition.complete,
        Definition.usableUri?_of_unusable hunusable]
      rfl
  | noLegality huri hne hlegality =>
      simp only [Definition.candidate, Definition.complete,
        Definition.usableUri?_of_ne_empty huri hne, hlegality]
      rfl
  | noEquality huri hne hlegality hequality =>
      simp only [Definition.candidate, Definition.complete,
        Definition.usableUri?_of_ne_empty huri hne, hlegality, hequality]
      rfl
  | taken hgives hregistered =>
      obtain ⟨taken, htaken⟩ := Option.isSome_iff_exists.mp hregistered
      rw [hgives.candidate_eq, propose_taken htaken]
      rfl
  | free hgives hfree => rw [hgives.candidate_eq, propose_free hfree]

end Judged

section Lawful

variable [EmptyCollection σ] [LawfulStore σ]

theorem value_define_iff_judged (r : Registry σ) (definition? : Option Definition)
    (result : Except RegistryError Datatype) :
    (r.define definition?).value.1 = result ↔ r.Judged definition? result := by
  constructor
  · rintro rfl
    obtain ⟨result, hjudged⟩ := Judged.exists_result r definition?
    rw [hjudged.value_define]
    exact hjudged
  · exact Judged.value_define

/-- A datatype that has been registered from a definition follows it. -/
theorem follows_of_define_ok {r : Registry σ} {definition? : Option Definition} {d : Datatype}
    (hok : (r.define definition?).value.1 = .ok d) :
    ∃ definition, definition? = some definition ∧ d.Follows definition := by
  cases (r.value_define_iff_judged definition? _).mp hok with
  | free hgives hfree =>
      exact ⟨_, rfl, hgives.given, hgives.legality, hgives.equality, fun _ => rfl,
        fun _ _ => rfl, fun _ => rfl⟩

end Lawful

/-- The only event of an insertion tells what the store has answered. -/
theorem emptyUri_not_mem_events_insert (r : Registry σ) (d : Datatype) :
    .emptyUri ∉ (r.insert d).events := by
  unfold insert
  split <;> simp [Recorded.events_map]

/-- No definition is turned away by the check of offers for the empty URI. -/
theorem emptyUri_not_mem_events_define (r : Registry σ) (definition? : Option Definition) :
    .emptyUri ∉ (r.define definition?).events := by
  unfold define
  cases definition? with
  | none => simp [Recorded.events_map]
  | some definition =>
      dsimp only
      cases definition.complete with
      | error e => simp [Recorded.events_map]
      | ok complete =>
          have hne : complete.offer.uri ≠ "" := complete.uri_ne_empty
          dsimp only
          rw [register, if_neg hne]
          exact r.emptyUri_not_mem_events_insert _

/-! ## Summary -/

/-- How a registry deals with definitions. -/
structure ChecksInOrder (r : Registry σ) : Prop where
  judged : ∀ definition? result,
    (r.define definition?).value.1 = result ↔ r.Judged definition? result
  unchanged : ∀ definition? e, (r.define definition?).value.1 = .error e →
    (r.define definition?).value.2 = r
  follows : ∀ definition? d, (r.define definition?).value.1 = .ok d →
    (r.define definition?).value.2.Holds d ∧
      ∃ definition, definition? = some definition ∧ d.Follows definition
  /-- A complete definition is registered just as an offer that has the same rules and always
  gives the same URI, down to the journal. -/
  as_offer : ∀ (definition : Definition) complete, definition.complete = .ok complete →
    ∀ offer : Offer, offer.Stable → offer.uri = complete.uri →
      offer.descriptor = complete.descriptor →
        r.define (some definition) = r.register offer
  /-- No definition gets as far as the check for the empty URI and fails it there. -/
  passes : ∀ definition?, .emptyUri ∉ (r.define definition?).events

/-- A registry reports the first check that a definition fails, and registers the definition as
it is if there is none. -/
theorem definitions_checked_in_order (r : Registry HashedStore) : r.ChecksInOrder where
  judged := r.value_define_iff_judged
  unchanged definition? e herror := by
    rw [value_define] at herror ⊢
    exact propose_eq_of_error herror
  follows definition? d hok := by
    refine ⟨?_, follows_of_define_ok hok⟩
    rw [value_define] at hok ⊢
    exact holds_of_propose_ok hok
  as_offer definition complete hcomplete offer hstable huri hdescriptor := by
    have hoffer : complete.offer = offer := by
      rw [CompleteDefinition.offer, ← huri, ← hdescriptor]
      exact hstable.eq_fixed.symm
    rw [← hoffer]
    simp only [define, hcomplete]
  passes := r.emptyUri_not_mem_events_define

end Registry

end Datatypes
