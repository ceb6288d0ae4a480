import Datatypes.Proofs.Literal.Json
import Datatypes.Proofs.Registry.Startup
import Datatypes.Proofs.Store.Hashed

/-! # Literals stay legal

The users of a registry come by datatypes, through registration, lookup and binding, and by
literals, which they construct, parse, canonicalise and copy. Every literal that they have
is legal for its datatype. If the registry holds that datatype, the literal can be taken
apart into a typed literal, written and read back, and it is then found again by the
registry, as it is at that time or as it becomes later.
-/

namespace Datatypes

/-- The lexical value is legal for the literal's own datatype. -/
def Literal.Legal (l : Literal) : Prop :=
  l.datatype.descriptor.isLegal l.lexicalValue

/-- The literal with the lexical value, if the datatype accepts it. -/
def Datatype.constructed? (d : Datatype) (lexicalValue : String) : Option Literal :=
  (d.construct lexicalValue).value.toOption

theorem Literal.legal_of_constructed {d : Datatype} {lexicalValue : String} {l : Literal}
    (hconstructed : d.constructed? lexicalValue = some l) : l.Legal := by
  rw [Datatype.constructed?, Datatype.value_construct] at hconstructed
  split at hconstructed
  next hlegal =>
    cases hconstructed
    exact hlegal
  next => contradiction

theorem Literal.Legal.canonicalise {l : Literal} (hlegal : l.Legal) :
    l.canonicalise.value.Legal := by
  rw [Literal.value_canonicalise]
  exact Datatype.isLegal_canonicalValue hlegal

/-! ## Sessions -/

/-- A registry with the datatypes and the literals that its users have come by. -/
structure Session (σ : Type) where
  registry : Registry σ
  datatypes : List Datatype := []
  literals : List Literal := []

/-- What users do. Datatypes and literals that they have are referred to by their place,
the latest first. -/
inductive Act where
  | ask (request : Request)
  /-- A datatype is bound without being registered. -/
  | bind (offer : Offer)
  | datatypeOf (literal : Nat)
  | construct (datatype : Nat) (lexicalValue : String)
  | canonicalise (literal : Nat)
  | copy (literal : Nat)

/-- The datatypes that an answer hands out. -/
def Answer.datatypes {ε : Type} : Answer ε → List Datatype
  | registration (.ok d) => [d]
  | batch results => results.filterMap BatchResult.datatype?
  | lookup datatype? => datatype?.toList
  | _ => []

/-- The literals that an answer hands out. -/
def Answer.literals {ε : Type} : Answer ε → List Literal
  | literal (.ok l) => [l]
  | _ => []

/-- The request that an act puts to the registry, if it does. -/
def Act.request? : Act → Option Request
  | ask request => some request
  | _ => none

namespace Session

variable {σ : Type} [Store σ]

/-- The datatypes that users come by through an act. -/
def newDatatypes (s : Session σ) : Act → List Datatype
  | .ask request => (s.registry.step request).value.1.datatypes
  | .bind offer => [offer.bind]
  | .datatypeOf literal => (s.literals[literal]?.map Literal.datatype).toList
  | .construct _ _ | .canonicalise _ | .copy _ => []

/-- The literals that users come by through an act. -/
def newLiterals (s : Session σ) : Act → List Literal
  | .ask request => (s.registry.step request).value.1.literals
  | .construct datatype lexicalValue =>
      (s.datatypes[datatype]?.bind (·.constructed? lexicalValue)).toList
  | .canonicalise literal => (s.literals[literal]?.map (·.canonicalise.value)).toList
  | .copy literal => s.literals[literal]?.toList
  | .bind _ | .datatypeOf _ => []

/-- Does one act. An act on something that is not there changes nothing. -/
def step (s : Session σ) (act : Act) : Session σ where
  registry :=
    match act.request? with
    | some request => (s.registry.step request).value.2
    | none => s.registry
  datatypes := s.newDatatypes act ++ s.datatypes
  literals := s.newLiterals act ++ s.literals

/-- Does one act after the other. -/
def run (s : Session σ) (acts : List Act) : Session σ :=
  acts.foldl step s

/-- The registry goes through the requests among the acts. -/
theorem registry_run (s : Session σ) (acts : List Act) :
    (s.run acts).registry = (s.registry.run (acts.filterMap Act.request?)).2 := by
  induction acts generalizing s with
  | nil => rfl
  | cons act rest ih =>
      change ((s.step act).run rest).registry = _
      rw [ih, List.filterMap_cons, step]
      cases act.request? <;> rfl

/-- Nothing has been done yet. Nor is anything registered, whatever the settings ask for: that
is for the set-up of a registry, or for the users to do as their first act. -/
def empty [EmptyCollection σ] (settings : Settings) : Session σ where
  registry := ⟨∅, settings⟩

section Lawful

variable [EmptyCollection σ] [LawfulStore σ]

theorem extends_run (s : Session σ) (acts : List Act) :
    s.registry.Extends (s.run acts).registry := by
  rw [registry_run]
  exact s.registry.extends_run _

theorem filed_run (settings : Settings) (acts : List Act) :
    ((empty settings : Session σ).run acts).registry.Filed := by
  rw [registry_run]
  exact Registry.filed_run settings _

/-- An offer for a free URI hands out its datatype and has it registered. -/
theorem step_register_of_free {s : Session σ} {offer : Offer} {d : Datatype}
    (hcandidate : offer.candidate = .ok d) (hfree : s.registry.get? d.uri = none) :
    (s.step (.ask (.register offer))).datatypes = d :: s.datatypes ∧
      (s.step (.ask (.register offer))).registry.Holds d := by
  have hregister := s.registry.value_step_register offer
  rw [hcandidate, Registry.propose_free hfree] at hregister
  simp only [step, newDatatypes, Act.request?, hregister]
  exact ⟨rfl, Registry.holds_of_propose_ok (Registry.propose_free hfree)⟩

end Lawful

/-! ## Legality -/

/-- Every literal that the users have is legal. -/
def AllLegal (s : Session σ) : Prop :=
  ∀ l ∈ s.literals, l.Legal

/-- Of the answers of a registry only those to parsing hand out literals. -/
theorem legal_of_mem_answer {r : Registry σ} {request : Request} {l : Literal}
    (hmem : l ∈ (r.step request).value.1.literals) : l.Legal := by
  cases request with
  | parse uri lexicalValue =>
      change l ∈ (Answer.literal (r.parse uri lexicalValue).value).literals at hmem
      cases hparse : (r.parse uri lexicalValue).value with
      | error e =>
          rw [hparse] at hmem
          contradiction
      | ok parsed =>
          rw [hparse] at hmem
          obtain ⟨-, hlexical, hlegal⟩ := Registry.get?_of_parse_ok hparse
          rw [List.mem_singleton.mp hmem, Literal.Legal, hlexical]
          exact hlegal
  | register _ | define _ | registerBatch _ | get _ | isValid _ _ | accepts _ _ | equal _ _
  | canonicalise _ | uris | contains _ | size | isEmpty => exact absurd hmem List.not_mem_nil

/-- What an act brings in is legal, provided that what it starts from is. -/
theorem AllLegal.legal_of_mem_new {s : Session σ} (hlegal : s.AllLegal) {act : Act} {l : Literal}
    (hnew : l ∈ s.newLiterals act) : l.Legal := by
  cases act with
  | ask request => exact legal_of_mem_answer hnew
  | bind _ | datatypeOf _ => contradiction
  | construct datatype lexicalValue =>
      obtain ⟨d, -, hconstructed⟩ := Option.bind_eq_some_iff.mp (Option.mem_toList.mp hnew)
      exact Literal.legal_of_constructed hconstructed
  | canonicalise literal =>
      obtain ⟨original, horiginal, rfl⟩ := Option.map_eq_some_iff.mp (Option.mem_toList.mp hnew)
      exact (hlegal original (List.mem_of_getElem? horiginal)).canonicalise
  | copy literal => exact hlegal l (List.mem_of_getElem? (Option.mem_toList.mp hnew))

theorem AllLegal.step {s : Session σ} (hlegal : s.AllLegal) (act : Act) :
    (s.step act).AllLegal := by
  intro l hmem
  rcases List.mem_append.mp hmem with hnew | hold
  · exact hlegal.legal_of_mem_new hnew
  · exact hlegal l hold

theorem AllLegal.run {s : Session σ} (hlegal : s.AllLegal) (acts : List Act) :
    (s.run acts).AllLegal := by
  induction acts generalizing s with
  | nil => exact hlegal
  | cons act rest ih => exact ih (hlegal.step act)

omit [Store σ] in
theorem allLegal_empty [EmptyCollection σ] (settings : Settings) :
    (empty settings : Session σ).AllLegal :=
  nofun

end Session

/-! ## Finding a literal again -/

namespace Registry

variable {σ : Type} [Store σ]

/-- The registry finds a literal again by its typed literal, with the same datatype. -/
structure Restores (r : Registry σ) (l : Literal) : Prop where
  parse : (r.parse l.toTyped.uri l.toTyped.lexicalValue).value = .ok l
  isValid : (r.isValid l.toTyped.uri l.toTyped.lexicalValue).value = true
  accepts : (r.accepts l.toTyped.uri l.toTyped).value = true
  equal : (r.equal l.toTyped l.toTyped).value = true
  canonicalise : (r.canonicalise l.toTyped).value = .ok l.canonicalise.value.toTyped

theorem Holds.restores {r : Registry σ} {l : Literal} (hd : r.Holds l.datatype)
    (hlegal : l.Legal) : r.Restores l where
  parse := (hd.parse l.lexicalValue).trans (if_pos hlegal)
  isValid := (hd.isValid l.lexicalValue).trans hlegal
  accepts := (hd.accepts_own l.lexicalValue).trans hlegal
  equal := by
    have hvalid : (r.isValid l.toTyped.uri l.toTyped.lexicalValue).value = true :=
      (hd.isValid l.lexicalValue).trans hlegal
    rw [value_equal_self, hvalid]
  canonicalise := by
    rw [Literal.value_canonicalise]
    exact (hd.canonicalise l.lexicalValue).trans (if_pos hlegal)

end Registry

/-- A typed literal is written to JSON with a member for its URI and one for its lexical
value, and read back from the value and from the text of the value. -/
structure TypedLiteral.SurvivesJson (t : TypedLiteral) : Prop where
  toJson_eq : t.toJson = .object [("uri", .string t.uri), ("lexicalValue", .string t.lexicalValue)]
  ofJson_toJson : ofJson t.toJson = .ok t
  ofText_text : ofText t.toJson.text = .ok t

theorem TypedLiteral.survivesJson (t : TypedLiteral) : t.SurvivesJson where
  toJson_eq := rfl
  ofJson_toJson := t.ofJson_toJson
  ofText_text := t.ofText_text_toJson

namespace Session

/-- Whatever the users of a registry have done, each literal that they have is legal and is
not changed by being written and read. If the registry holds its datatype, the registry
finds it again, at once and after whatever is done later. -/
theorem literals_stay_legal (settings : Settings) (acts later : List Act) :
    let s := (empty settings : Session HashedStore).run acts
    ∀ l ∈ s.literals, l.Legal ∧ l.toTyped.SurvivesJson ∧
      ∀ key, s.registry.get? key = some l.datatype →
        s.registry.Restores l ∧ (s.run later).registry.Restores l := by
  intro s l hmem
  have hlegal : l.Legal := (allLegal_empty settings).run acts l hmem
  refine ⟨hlegal, l.toTyped.survivesJson, ?_⟩
  intro key hget
  have hheld : s.registry.Holds l.datatype := (filed_run settings acts).holds hget
  have hlater : (s.run later).registry.Holds l.datatype := (s.extends_run later).holds hheld
  exact ⟨hheld.restores hlegal, hlater.restores hlegal⟩

/-- A flag is written in two ways, one of which is canonical. It is registered and a literal
constructed, which is found again after the flag has been offered a second time. -/
theorem literals_stay_legal_flag :
    let flag := Offer.fixed "urn:flag"
      { isLegal := fun value => value == "1" || value == "true"
        equals := fun _ _ => false
        canonicalForm? := some fun value => if value = "1" then "true" else value }
    let l : Literal := ⟨flag.bind, "1"⟩
    let s := (empty {} : Session HashedStore).run [.ask (.register flag), .construct 0 "1"]
    l ∈ s.literals ∧ s.registry.get? "urn:flag" = some l.datatype ∧
      l.Legal ∧ (s.run [.ask (.register flag)]).registry.Restores l := by
  intro flag l s
  have hfree : (empty {} : Session HashedStore).registry.get? flag.bind.uri = none :=
    LawfulStore.get?_empty _
  have hcandidate : flag.candidate = .ok flag.bind := rfl
  have hregistered := step_register_of_free hcandidate hfree
  have hmem : l ∈ s.literals := by
    refine List.mem_append_left _ ?_
    simp only [newLiterals, hregistered.1]
    exact List.mem_singleton_self l
  have hget : s.registry.get? "urn:flag" = some l.datatype := hregistered.2
  obtain ⟨hlegal, -, hrestores⟩ := literals_stay_legal {} [.ask (.register flag), .construct 0 "1"]
    [.ask (.register flag)] l hmem
  exact ⟨hmem, hget, hlegal, (hrestores "urn:flag" hget).2⟩

end Session

end Datatypes
