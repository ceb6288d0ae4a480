import Datatypes.Proofs.Registry.Growth
import Datatypes.Proofs.Store.Hashed

/-! # Answers about literals are local

What is asked about literals names one or two URIs, and the answer depends on what is
registered under these, and on the settings, alone. As a registry grows, an answer can
therefore change only if one of the URIs was free; and then it was owed to that.
-/

namespace Datatypes

/-- The URIs that a question about literals names. Other requests are not such questions. -/
def Request.named? : Request → Option (List String)
  | .parse uri _ | .isValid uri _ => some [uri]
  | .accepts uri literal => some [uri, literal.uri]
  | .equal a b => some [a.uri, b.uri]
  | .canonicalise literal => some [literal.uri]
  | _ => none

/-- The answer to a question about literals that finds nothing under the URI. -/
inductive Answer.OwedTo (uri : String) : Answer RegistryError → Prop where
  | no : OwedTo uri (.truth false)
  | noLiteral : OwedTo uri (.literal (.error (.unknownDatatype uri)))
  | noCanonicalForm : OwedTo uri (.typed (.error (.unknownDatatype uri)))

/-- A question about literals has been answered in the affirmative, or by a datatype that
finds the lexical value illegal. -/
inductive Answer.Final : Answer RegistryError → Prop where
  | yes : Final (.truth true)
  | literal (l : Literal) : Final (.literal (.ok l))
  | canonicalForm (t : TypedLiteral) : Final (.typed (.ok t))
  | illegalLiteral (lexicalValue uri : String) :
    Final (.literal (.error (.illegalLexicalValue lexicalValue uri)))
  | illegalForm (lexicalValue uri : String) :
    Final (.typed (.error (.illegalLexicalValue lexicalValue uri)))

theorem Answer.Final.not_owedTo {answer : Answer RegistryError} (hfinal : answer.Final)
    (uri : String) : ¬ answer.OwedTo uri := by
  intro howed
  cases hfinal <;> cases howed

namespace Registry

open Recorded

variable {σ τ : Type} [Store σ] [Store τ]

/-- The answer to a request, with its part of the journal. -/
def answer (r : Registry σ) (request : Request) : Recorded (Answer RegistryError) :=
  ⟨(r.step request).value.1, (r.step request).journal⟩

/-- A question about literals leaves the registry as it is. -/
theorem registry_step_of_named {r : Registry σ} {request : Request} {uris : List String}
    (hnamed : request.named? = some uris) : (r.step request).value.2 = r := by
  cases request with
  | parse _ _ | isValid _ _ | accepts _ _ | equal _ _ | canonicalise _ => rfl
  | register _ | define _ | registerBatch _ | get _ | uris | contains _ | size | isEmpty =>
      contradiction

/-! ## Locality -/

section Locality

variable {r : Registry σ} {r' : Registry τ}

theorem parse_congr {uri : String} (hget : r'.get? uri = r.get? uri) (lexicalValue : String) :
    r'.parse uri lexicalValue = r.parse uri lexicalValue := by
  unfold parse
  rw [hget]

theorem isValid_congr {uri : String} (hget : r'.get? uri = r.get? uri) (lexicalValue : String) :
    r'.isValid uri lexicalValue = r.isValid uri lexicalValue := by
  unfold isValid
  rw [parse_congr hget]

theorem accepts_congr {uri : String} {literal : TypedLiteral} (hget : r'.get? uri = r.get? uri)
    (hsource : r'.get? literal.uri = r.get? literal.uri) :
    r'.accepts uri literal = r.accepts uri literal := by
  unfold accepts
  rw [hget, parse_congr hsource]

theorem equal_congr {a b : TypedLiteral}
    (hdirections : r'.settings.bidirectionalEquality = r.settings.bidirectionalEquality)
    (hleft : r'.get? a.uri = r.get? a.uri) (hright : r'.get? b.uri = r.get? b.uri) :
    r'.equal a b = r.equal a b := by
  have hpair : r'.parsePair a b = r.parsePair a b := by
    unfold parsePair
    rw [parse_congr hleft, parse_congr hright]
  unfold equal
  rw [hpair, hdirections]

theorem canonicalise_congr {literal : TypedLiteral}
    (hget : r'.get? literal.uri = r.get? literal.uri) :
    r'.canonicalise literal = r.canonicalise literal := by
  unfold canonicalise
  rw [parse_congr hget]

/-- Registries that compare literals in the same directions and hold the same under the URIs
that a question about literals names give the same answer, and consult and log the same for
it. -/
theorem answer_congr_of_directions
    (hdirections : r'.settings.bidirectionalEquality = r.settings.bidirectionalEquality)
    {request : Request} {uris : List String} (hnamed : request.named? = some uris)
    (hagree : ∀ uri ∈ uris, r'.get? uri = r.get? uri) :
    r'.answer request = r.answer request := by
  cases request with
  | parse uri lexicalValue =>
      cases hnamed
      have hget := hagree uri (List.mem_singleton_self uri)
      change Answer.literal <$> r'.parse uri lexicalValue = Answer.literal <$> _
      rw [parse_congr hget]
  | isValid uri lexicalValue =>
      cases hnamed
      have hget := hagree uri (List.mem_singleton_self uri)
      change Answer.truth <$> r'.isValid uri lexicalValue = Answer.truth <$> _
      rw [isValid_congr hget]
  | accepts uri literal =>
      cases hnamed
      obtain ⟨hget, hrest⟩ := List.forall_mem_cons.mp hagree
      have hsource := hrest literal.uri (List.mem_singleton_self literal.uri)
      change Answer.truth <$> r'.accepts uri literal = Answer.truth <$> _
      rw [accepts_congr hget hsource]
  | equal a b =>
      cases hnamed
      obtain ⟨hleft, hrest⟩ := List.forall_mem_cons.mp hagree
      have hright := hrest b.uri (List.mem_singleton_self b.uri)
      change Answer.truth <$> r'.equal a b = Answer.truth <$> _
      rw [equal_congr hdirections hleft hright]
  | canonicalise literal =>
      cases hnamed
      have hget := hagree literal.uri (List.mem_singleton_self literal.uri)
      change Answer.typed <$> r'.canonicalise literal = Answer.typed <$> _
      rw [canonicalise_congr hget]
  | register _ | define _ | registerBatch _ | get _ | uris | contains _ | size | isEmpty =>
      contradiction

/-- Registries with the same settings answer alike what they hold the same for. -/
theorem answer_congr (hsettings : r'.settings = r.settings) {request : Request}
    {uris : List String} (hnamed : request.named? = some uris)
    (hagree : ∀ uri ∈ uris, r'.get? uri = r.get? uri) :
    r'.answer request = r.answer request :=
  answer_congr_of_directions (congrArg Settings.bidirectionalEquality hsettings) hnamed hagree

end Locality

/-! ## Free URIs -/

section Free

variable {r : Registry σ}

theorem parse_free {uri : String} (hfree : r.get? uri = none) (lexicalValue : String) :
    r.parse uri lexicalValue = pure (.error (.unknownDatatype uri)) := by
  unfold parse
  rw [hfree]

theorem value_accepts_of_free_target {uri : String} (hfree : r.get? uri = none)
    (literal : TypedLiteral) : (r.accepts uri literal).value = false := by
  unfold accepts
  rw [hfree]
  rfl

/-- The source is not parsed if its URI is that of the target, but then it is the target
that is missing. -/
theorem value_accepts_of_free_source {literal : TypedLiteral}
    (hfree : r.get? literal.uri = none) (uri : String) :
    (r.accepts uri literal).value = false := by
  unfold accepts
  cases hget : r.get? uri with
  | none => rfl
  | some target =>
      have hne : literal.uri ≠ uri := by
        intro heq
        rw [heq, hget] at hfree
        contradiction
      simp only [if_neg hne, parse_free hfree, pure_bind, value_bind, value_pure]

theorem value_equal_of_free {a b : TypedLiteral}
    (hfree : r.get? a.uri = none ∨ r.get? b.uri = none) : (r.equal a b).value = false := by
  rw [value_equal]
  rcases hfree with hleft | hright
  · rw [parse_free hleft]
    rfl
  · rw [parse_free hright]
    cases (r.parse a.uri a.lexicalValue).value <;> rfl

theorem owedTo_of_free {request : Request} {uris : List String}
    (hnamed : request.named? = some uris) {uri : String} (hmem : uri ∈ uris)
    (hfree : r.get? uri = none) : (r.answer request).value.OwedTo uri := by
  cases request with
  | parse asked lexicalValue =>
      cases hnamed
      obtain rfl := List.mem_singleton.mp hmem
      change (Answer.literal (r.parse uri lexicalValue).value).OwedTo uri
      rw [parse_free hfree]
      exact .noLiteral
  | isValid asked lexicalValue =>
      cases hnamed
      obtain rfl := List.mem_singleton.mp hmem
      change (Answer.truth (r.isValid uri lexicalValue).value).OwedTo uri
      rw [value_isValid, parse_free hfree]
      exact .no
  | accepts asked literal =>
      cases hnamed
      change (Answer.truth (r.accepts asked literal).value).OwedTo uri
      rcases List.mem_cons.mp hmem with rfl | hmem
      · rw [value_accepts_of_free_target hfree]
        exact .no
      · obtain rfl := List.mem_singleton.mp hmem
        rw [value_accepts_of_free_source hfree]
        exact .no
  | equal a b =>
      cases hnamed
      change (Answer.truth (r.equal a b).value).OwedTo uri
      rcases List.mem_cons.mp hmem with rfl | hmem
      · rw [value_equal_of_free (.inl hfree)]
        exact .no
      · obtain rfl := List.mem_singleton.mp hmem
        rw [value_equal_of_free (.inr hfree)]
        exact .no
  | canonicalise literal =>
      cases hnamed
      obtain rfl := List.mem_singleton.mp hmem
      change (Answer.typed (r.canonicalise literal).value).OwedTo literal.uri
      unfold canonicalise
      rw [parse_free hfree]
      exact .noCanonicalForm
  | register _ | define _ | registerBatch _ | get _ | uris | contains _ | size | isEmpty =>
      contradiction

end Free

/-! ## Growth -/

section Growth

variable {r later : Registry σ}

/-- An answer that changes as the registry grows was owed to a URI that was free and has
been taken since. -/
theorem Extends.owedTo_of_changed (hextends : r.Extends later) {request : Request}
    {uris : List String} (hnamed : request.named? = some uris)
    (hchanged : later.answer request ≠ r.answer request) :
    ∃ uri ∈ uris, r.get? uri = none ∧ (later.get? uri).isSome ∧
      (r.answer request).value.OwedTo uri := by
  have hdiffer : ¬ ∀ uri ∈ uris, later.get? uri = r.get? uri := by
    intro hagree
    exact hchanged (answer_congr hextends.settings hnamed hagree)
  simp only [Classical.not_forall] at hdiffer
  obtain ⟨uri, hmem, hne⟩ := hdiffer
  cases hget : r.get? uri with
  | some d => exact absurd ((hextends.get? uri d hget).trans hget.symm) hne
  | none =>
      rw [hget] at hne
      have hsome : (later.get? uri).isSome := Option.isSome_iff_ne_none.mpr hne
      exact ⟨uri, hmem, hget, hsome, owedTo_of_free hnamed hmem hget⟩

theorem Extends.answer_eq_of_final (hextends : r.Extends later) {request : Request}
    {uris : List String} (hnamed : request.named? = some uris)
    (hfinal : (r.answer request).value.Final) : later.answer request = r.answer request := by
  apply Classical.byContradiction
  intro hchanged
  obtain ⟨uri, -, -, -, howed⟩ := hextends.owedTo_of_changed hnamed hchanged
  exact hfinal.not_owedTo uri howed

end Growth

/-- What becomes of the answers to questions about literals as a registry grows into
another one. -/
structure Outlasts (r later : Registry σ) : Prop where
  /-- With all its URIs registered, a question has had its answer. -/
  of_registered : ∀ request uris, request.named? = some uris →
    (∀ uri ∈ uris, (r.get? uri).isSome) → later.answer request = r.answer request
  /-- So it has if it was affirmed, or if a lexical value was found illegal. -/
  of_final : ∀ request uris, request.named? = some uris →
    (r.answer request).value.Final → later.answer request = r.answer request
  /-- Only a denial or an unknown datatype can be revised, and only if it was owed to a URI
  that has been taken since. -/
  of_changed : ∀ request uris, request.named? = some uris →
    later.answer request ≠ r.answer request →
      ∃ uri ∈ uris, r.get? uri = none ∧ (later.get? uri).isSome ∧
        (r.answer request).value.OwedTo uri

theorem Extends.outlasts {r later : Registry σ} (hextends : r.Extends later) :
    r.Outlasts later where
  of_registered request uris hnamed hregistered := by
    apply answer_congr hextends.settings hnamed
    intro uri hmem
    obtain ⟨d, hget⟩ := Option.isSome_iff_exists.mp (hregistered uri hmem)
    rw [hget, hextends.get? uri d hget]
  of_final _ _ hnamed hfinal := hextends.answer_eq_of_final hnamed hfinal
  of_changed _ _ hnamed hchanged := hextends.owedTo_of_changed hnamed hchanged

/-- Questions about literals are answered locally, with the same journal wherever the
settings and what is held under the URIs that they name are the same. Hence the answers that
a registry gives outlast whatever is done later. -/
theorem answers_local_and_lasting :
    (∀ (r r' : Registry HashedStore) (request : Request) (uris : List String),
      r'.settings = r.settings → request.named? = some uris →
        (∀ uri ∈ uris, r'.get? uri = r.get? uri) → r'.answer request = r.answer request) ∧
    ∀ (r : Registry HashedStore) (requests : List Request),
      r.Outlasts (r.run requests).2 := by
  refine ⟨?_, ?_⟩
  · intro r r' request uris hsettings hnamed hagree
    exact answer_congr hsettings hnamed hagree
  · intro r requests
    exact (r.extends_run requests).outlasts

end Registry

end Datatypes
