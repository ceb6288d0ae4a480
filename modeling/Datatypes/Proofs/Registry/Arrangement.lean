import Datatypes.Proofs.Registry.Alike

/-! # The order of registrations

Datatypes under URIs of their own may be registered in any order, one by one or in batches,
from offers or from definitions. All of them are registered, and the registries that result
cannot be told apart.
-/

namespace Datatypes

/-- The request registers the datatypes, in order, and there is nothing wrong with what it
brings along: an offer always gives the same URI, which is not empty, and a definition is
complete. -/
inductive Request.Registers : Request → List Datatype → Prop where
  | offer {offer : Offer} (hstable : offer.Stable) (hne : offer.uri ≠ "") :
    Registers (.register offer) [offer.bind]
  | definition {definition : Definition} {complete : CompleteDefinition}
    (hcomplete : definition.complete = .ok complete) :
    Registers (.define (some definition)) [complete.offer.bind]
  | batch {offers : List Offer} (hstable : ∀ offer ∈ offers, offer.Stable)
    (hne : ∀ offer ∈ offers, offer.uri ≠ "") :
    Registers (.registerBatch offers) (offers.map Offer.bind)

/-- The requests register the datatypes, in order, each request as many of them as it has
room for. -/
inductive Arranges : List Request → List Datatype → Prop where
  | nil : Arranges [] []
  | cons {request : Request} {rest : List Request} {ds es : List Datatype}
    (hfirst : request.Registers ds) (hrest : Arranges rest es) :
    Arranges (request :: rest) (ds ++ es)

theorem Offer.Stable.candidate_eq_ok {offer : Offer} (hstable : offer.Stable)
    (hne : offer.uri ≠ "") : offer.candidate = .ok offer.bind := by
  rw [hstable.candidate_eq, if_neg hne]

/-- However a datatype is registered, it is the candidate. -/
theorem Request.Registers.candidates_eq {request : Request} {ds : List Datatype}
    (hregisters : request.Registers ds) : request.candidates = ds.map .ok := by
  cases hregisters with
  | offer hstable hne => exact congrArg (fun c => [c]) (hstable.candidate_eq_ok hne)
  | @definition definition complete hcomplete =>
      have hstable : complete.offer.Stable := .fixed complete.uri complete.descriptor
      have hcandidate : Definition.candidate (some definition) = complete.offer.candidate := by
        simp only [Definition.candidate, hcomplete]
      rw [candidates, hcandidate, hstable.candidate_eq_ok complete.uri_ne_empty]
      rfl
  | @batch offers hstable hne =>
      rw [candidates, List.map_map]
      apply List.map_congr_left
      intro offer hoffer
      rw [(hstable offer hoffer).candidate_next]
      exact (hstable offer hoffer).candidate_eq_ok (hne offer hoffer)

theorem Arranges.candidates_eq {requests : List Request} {ds : List Datatype}
    (harranges : Arranges requests ds) : requests.flatMap Request.candidates = ds.map .ok := by
  induction harranges with
  | nil => rfl
  | cons hfirst _ ih => rw [List.flatMap_cons, hfirst.candidates_eq, ih, List.map_append]

namespace Registry

section Lawful

variable {σ : Type} [Store σ] [EmptyCollection σ] [LawfulStore σ]

theorem get?_propose_free_eq_some_iff {r : Registry σ} {d : Datatype}
    (hfree : r.get? d.uri = none) (uri : String) (e : Datatype) :
    (r.propose (.ok d)).2.get? uri = some e ↔ r.get? uri = some e ∨ e = d ∧ e.uri = uri := by
  rw [get?_propose_free hfree]
  by_cases huri : uri = d.uri
  · subst huri
    rw [if_pos rfl, hfree]
    constructor
    · rintro ⟨⟩
      exact .inr ⟨rfl, rfl⟩
    · rintro (hnone | ⟨rfl, -⟩)
      · contradiction
      · rfl
  · rw [if_neg huri]
    refine ⟨.inl, ?_⟩
    rintro (hget | ⟨rfl, heq⟩)
    · exact hget
    · exact absurd heq.symm huri

/-- Datatypes under URIs that are free, and each its own, are all registered, and come on top
of what is held. -/
theorem proposeAll_distinct {r : Registry σ} {ds : List Datatype}
    (hdistinct : (ds.map Datatype.uri).Nodup) (hfree : ∀ d ∈ ds, r.get? d.uri = none) :
    (r.proposeAll (ds.map .ok)).1 = ds.map .ok ∧
      ∀ uri e, (r.proposeAll (ds.map .ok)).2.get? uri = some e ↔
        r.get? uri = some e ∨ e ∈ ds ∧ e.uri = uri := by
  induction ds generalizing r with
  | nil =>
      refine ⟨rfl, ?_⟩
      intro uri e
      simp only [List.not_mem_nil, false_and, or_false]
      rfl
  | cons d rest ih =>
      obtain ⟨hfresh, hdistinct⟩ := List.nodup_cons.mp hdistinct
      obtain ⟨hd, hrest⟩ := List.forall_mem_cons.mp hfree
      -- Registering `d` does not take the URI of any of the others.
      have hfree : ∀ e ∈ rest, (r.propose (.ok d)).2.get? e.uri = none := by
        intro e he
        have hne : e.uri ≠ d.uri := by
          intro heq
          exact hfresh (heq ▸ List.mem_map_of_mem he)
        rw [get?_propose_free hd, if_neg hne]
        exact hrest e he
      obtain ⟨houtcomes, hget⟩ := ih hdistinct hfree
      refine ⟨?_, ?_⟩
      · change (r.propose (.ok d)).1 :: ((r.propose (.ok d)).2.proposeAll (rest.map .ok)).1 = _
        rw [propose_free hd, houtcomes, List.map_cons]
      · intro uri e
        change ((r.propose (.ok d)).2.proposeAll (rest.map .ok)).2.get? uri = some e ↔ _
        rw [hget, get?_propose_free_eq_some_iff hd, or_assoc, ← or_and_right, List.mem_cons]

variable {r : Registry σ} {requests : List Request} {ds : List Datatype}

theorem outcomes_of_arranges (harranges : Arranges requests ds)
    (hdistinct : (ds.map Datatype.uri).Nodup) (hfree : ∀ d ∈ ds, r.get? d.uri = none) :
    ((r.run requests).1.flatMap fun answer => answer.value.outcomes) = ds.map .ok := by
  rw [(r.run_proposeAll requests).1, harranges.candidates_eq]
  exact (proposeAll_distinct hdistinct hfree).1

theorem get?_run_of_arranges (harranges : Arranges requests ds)
    (hdistinct : (ds.map Datatype.uri).Nodup) (hfree : ∀ d ∈ ds, r.get? d.uri = none)
    (uri : String) (e : Datatype) :
    (r.run requests).2.get? uri = some e ↔ r.get? uri = some e ∨ e ∈ ds ∧ e.uri = uri := by
  rw [(r.run_proposeAll requests).2, harranges.candidates_eq]
  exact (proposeAll_distinct hdistinct hfree).2 uri e

/-- What is held in the end depends on which datatypes are registered, and not on the order
or on the requests that do it. -/
theorem alike_of_arranges {requests' : List Request} {ds' : List Datatype}
    (harranges : Arranges requests ds) (harranges' : Arranges requests' ds')
    (hperm : ds'.Perm ds) (hdistinct : (ds.map Datatype.uri).Nodup)
    (hfree : ∀ d ∈ ds, r.get? d.uri = none) :
    (r.run requests).2.Alike (r.run requests').2 := by
  have hdistinct' : (ds'.map Datatype.uri).Nodup := (hperm.map _).nodup_iff.mpr hdistinct
  have hfree' : ∀ d ∈ ds', r.get? d.uri = none := fun d hd => hfree d (hperm.mem_iff.mp hd)
  refine ⟨?_, ?_⟩
  · rw [settings_run, settings_run]
  · intro uri
    apply Option.ext
    intro e
    rw [get?_run_of_arranges harranges hdistinct hfree,
      get?_run_of_arranges harranges' hdistinct' hfree', hperm.mem_iff]

end Lawful

/-- Datatypes whose URIs are free and differ from one another are registered in two orders,
split into requests in two ways. Every one of them is registered both times, and the
registries that are reached cannot be told apart. -/
theorem order_of_registrations_immaterial {r : Registry HashedStore} {ds ds' : List Datatype}
    {requests requests' : List Request} (hdistinct : (ds.map Datatype.uri).Nodup)
    (hfree : ∀ d ∈ ds, r.get? d.uri = none) (hperm : ds'.Perm ds)
    (harranges : Arranges requests ds) (harranges' : Arranges requests' ds') :
    ((r.run requests).1.flatMap fun answer => answer.value.outcomes) = ds.map .ok ∧
      ((r.run requests').1.flatMap fun answer => answer.value.outcomes) = ds'.map .ok ∧
      (∀ d ∈ ds, (r.run requests).2.get? d.uri = some d) ∧
      (r.run requests).2.Indistinguishable (r.run requests').2 := by
  have hdistinct' : (ds'.map Datatype.uri).Nodup := (hperm.map _).nodup_iff.mpr hdistinct
  have hfree' : ∀ d ∈ ds', r.get? d.uri = none := fun d hd => hfree d (hperm.mem_iff.mp hd)
  refine ⟨outcomes_of_arranges harranges hdistinct hfree,
    outcomes_of_arranges harranges' hdistinct' hfree', ?_, ?_⟩
  · intro d hd
    exact (get?_run_of_arranges harranges hdistinct hfree d.uri d).mpr (.inr ⟨hd, rfl⟩)
  · exact (alike_of_arranges harranges harranges' hperm hdistinct hfree).indistinguishable

/-- Digits and words are offered in one batch, or words by a definition before digits by a
call. -/
theorem order_of_registrations_immaterial_digit_word :
    let digit := Offer.fixed "urn:digit"
      { isLegal := (· == "1"), equals := fun _ other => other.lexicalValue == "one" }
    let wordLegal : String → Bool := (· == "one")
    let word := Offer.fixed "urn:word" { isLegal := wordLegal, equals := fun _ _ => false }
    let definition : Definition :=
      { uri? := some "urn:word", isLegal? := some wordLegal, equals? := some fun _ _ => false }
    let r : Registry HashedStore := ⟨∅, {}⟩
    let requests := [Request.registerBatch [digit, word]]
    let requests' := [Request.define (some definition), .register digit]
    Arranges requests [digit.bind, word.bind] ∧ Arranges requests' [word.bind, digit.bind] ∧
      (r.run requests).2.Indistinguishable (r.run requests').2 := by
  intro digit wordLegal word definition r requests requests'
  have hstable : ∀ offer ∈ [digit, word], offer.Stable :=
    List.forall_mem_cons.mpr ⟨.fixed _ _, List.forall_mem_singleton.mpr (.fixed _ _)⟩
  have hne : ∀ offer ∈ [digit, word], offer.uri ≠ "" := by
    refine List.forall_mem_cons.mpr ⟨?_, List.forall_mem_singleton.mpr ?_⟩
    · exact (by decide : "urn:digit" ≠ "")
    · exact (by decide : "urn:word" ≠ "")
  have hbatch : Arranges requests [digit.bind, word.bind] := .cons (.batch hstable hne) .nil
  have hsingle : Arranges requests' [word.bind, digit.bind] := by
    have hcomplete : definition.complete = .ok ⟨"urn:word", word.descriptor, by decide⟩ := rfl
    have hdigit : (Request.register digit).Registers [digit.bind] :=
      .offer (hstable digit List.mem_cons_self) (hne digit List.mem_cons_self)
    exact .cons (.definition hcomplete) (.cons hdigit .nil)
  have hdistinct : ([digit.bind, word.bind].map Datatype.uri).Nodup :=
    (by decide : ["urn:digit", "urn:word"].Nodup)
  have hfree : ∀ d ∈ [digit.bind, word.bind], r.get? d.uri = none :=
    fun d _ => LawfulStore.get?_empty d.uri
  obtain ⟨-, -, -, hsame⟩ := order_of_registrations_immaterial hdistinct hfree
    (.swap digit.bind word.bind []) hbatch hsingle
  exact ⟨hbatch, hsingle, hsame⟩

end Registry

end Datatypes
