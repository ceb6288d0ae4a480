import Datatypes.Proofs.Registry.Locality

/-! # Which literals a datatype accepts

A datatype accepts its own legal literals, and of another datatype's legal literals those that
one of the two can convert into a legal value. Which of the two it is makes no difference: what
the import comes to is no argument against the export. Both datatypes have a say, however. A
literal that its own datatype finds illegal is not converted at all.
-/

namespace Datatypes

/-- The import by the target or the export by the source takes a lexical value to another one. -/
def Datatype.Converts (target source : Datatype) (lexicalValue converted : String) : Prop :=
  target.imported? ⟨source.uri, lexicalValue⟩ = some converted ∨
    source.exported? ⟨source.uri, lexicalValue⟩ target.uri = some converted

theorem Datatype.takesOver_iff (target source : Datatype) (lexicalValue : String) :
    target.takesOver source lexicalValue ↔ ∃ converted,
      target.Converts source lexicalValue converted ∧ target.descriptor.isLegal converted := by
  simp only [takesOver, Converts, Bool.or_eq_true, Option.any_eq_true]
  constructor
  · rintro (⟨converted, himported, hlegal⟩ | ⟨converted, hexported, hlegal⟩)
    · exact ⟨converted, .inl himported, hlegal⟩
    · exact ⟨converted, .inr hexported, hlegal⟩
  · rintro ⟨converted, himported | hexported, hlegal⟩
    · exact .inl ⟨converted, himported, hlegal⟩
    · exact .inr ⟨converted, hexported, hlegal⟩

namespace Registry

variable {σ : Type} [Store σ] {r : Registry σ}

/-- The reasons for which a typed literal is a value of the datatype registered under a URI. -/
inductive Accepted (r : Registry σ) (uri : String) : TypedLiteral → Prop where
  | own {target : Datatype} {lexicalValue : String} (registered : r.get? uri = some target)
      (legal : target.descriptor.isLegal lexicalValue) : Accepted r uri ⟨uri, lexicalValue⟩
  | converted {target source : Datatype} {other lexicalValue converted : String}
      (target_registered : r.get? uri = some target) (ne : other ≠ uri)
      (source_registered : r.get? other = some source)
      (source_legal : source.descriptor.isLegal lexicalValue)
      (converts : target.Converts source lexicalValue converted)
      (target_legal : target.descriptor.isLegal converted) : Accepted r uri ⟨other, lexicalValue⟩

namespace Accepted

variable {uri : String} {literal : TypedLiteral}

/-- There is nothing to accept a literal for where no lexical value is legal. -/
theorem exists_parse_ok (haccepted : r.Accepted uri literal) :
    ∃ lexicalValue l, (r.parse uri lexicalValue).value = .ok l := by
  obtain ⟨target, lexicalValue, hget, hlegal⟩ : ∃ target lexicalValue,
      r.get? uri = some target ∧ target.descriptor.isLegal lexicalValue := by
    cases haccepted with
    | own hget hlegal => exact ⟨_, _, hget, hlegal⟩
    | converted hget _ _ _ _ hlegal => exact ⟨_, _, hget, hlegal⟩
  refine ⟨lexicalValue, ⟨target, lexicalValue⟩, ?_⟩
  rw [value_parse, hget]
  exact if_pos hlegal

/-- What is accepted is valid for its own datatype. -/
theorem isValid (haccepted : r.Accepted uri literal) :
    (r.isValid literal.uri literal.lexicalValue).value = true := by
  rw [value_isValid_eq_any]
  cases haccepted with
  | own hget hlegal =>
      rw [hget]
      exact hlegal
  | converted _ _ hget hlegal _ _ =>
      rw [hget]
      exact hlegal

end Accepted

/-- In a registry whose datatypes stand under their own URIs there are no other reasons. -/
theorem Filed.accepts_iff (hfiled : r.Filed) (uri : String) (literal : TypedLiteral) :
    (r.accepts uri literal).value ↔ r.Accepted uri literal := by
  obtain ⟨other, lexicalValue⟩ := literal
  cases htarget : r.get? uri with
  | none =>
      rw [value_accepts_of_free_target htarget]
      refine iff_of_false Bool.false_ne_true ?_
      rintro (⟨hget, -⟩ | ⟨hget, -⟩) <;> simp [htarget] at hget
  | some target =>
      have hd := hfiled.holds htarget
      obtain rfl := hfiled uri target htarget
      by_cases hsame : other = target.uri
      · subst hsame
        rw [hd.accepts_own]
        constructor
        · exact .own htarget
        · rintro (⟨hget, hlegal⟩ | ⟨-, hne, -⟩)
          · exact Option.some.inj (htarget.symm.trans hget) ▸ hlegal
          · exact absurd rfl hne
      · cases hsource : r.get? other with
        | none =>
            rw [value_accepts_of_free_source hsource]
            refine iff_of_false Bool.false_ne_true ?_
            rintro (_ | ⟨-, -, hget, -⟩)
            · exact hsame rfl
            · simp [hsource] at hget
        | some source =>
            have he := hfiled.holds hsource
            -- The import is shown the URI of the source and the export that of the target, so it
            -- matters that both stand under their own.
            have huri : source.uri = other := hfiled other source hsource
            have hvalue := hd.accepts_other he (huri ▸ hsame) lexicalValue
            rw [huri] at hvalue
            rw [hvalue, Bool.and_eq_true, Datatype.takesOver_iff]
            constructor
            · rintro ⟨hlegal, converted, hconverts, hconverted⟩
              exact .converted htarget hsame hsource hlegal hconverts hconverted
            · rintro (_ | ⟨hget, -, hget', hlegal, hconverts, hconverted⟩)
              · exact absurd rfl hsame
              · obtain rfl := Option.some.inj (htarget.symm.trans hget)
                obtain rfl := Option.some.inj (hsource.symm.trans hget')
                exact ⟨hlegal, _, hconverts, hconverted⟩

/-- How a registry decides which literals its datatypes accept. -/
structure DecidesAcceptance (r : Registry σ) : Prop where
  accepts_iff : ∀ uri literal, (r.accepts uri literal).value ↔ r.Accepted uri literal
  /-- For a literal of the datatype itself it is the question whether the literal is valid. -/
  accepts_own : ∀ uri lexicalValue,
    (r.accepts uri ⟨uri, lexicalValue⟩).value = (r.isValid uri lexicalValue).value
  /-- A legal export is enough, whatever the import gives. -/
  export_suffices : ∀ target source, r.Holds target → r.Holds source → source.uri ≠ target.uri →
    ∀ lexicalValue converted, source.descriptor.isLegal lexicalValue →
      source.exported? ⟨source.uri, lexicalValue⟩ target.uri = some converted →
      target.descriptor.isLegal converted →
        (r.accepts target.uri ⟨source.uri, lexicalValue⟩).value
  /-- Nothing is accepted for a datatype that has no legal values. -/
  inhabited : ∀ uri literal, (r.accepts uri literal).value →
    ∃ lexicalValue l, (r.parse uri lexicalValue).value = .ok l
  /-- No conversion, by whichever side, makes up for a literal that is not valid itself. -/
  source_valid : ∀ uri literal, (r.accepts uri literal).value →
    (r.isValid literal.uri literal.lexicalValue).value

theorem Filed.decidesAcceptance (hfiled : r.Filed) : r.DecidesAcceptance where
  accepts_iff := hfiled.accepts_iff
  accepts_own uri lexicalValue := by
    cases hget : r.get? uri with
    | none =>
        rw [value_accepts_of_free_target hget, value_isValid_eq_any, hget]
        rfl
    | some d =>
        have hd := hfiled.holds hget
        obtain rfl := hfiled uri d hget
        rw [hd.accepts_own, hd.isValid]
  export_suffices target source htarget hsource hne lexicalValue converted hlegal hexported
      hconverted := by
    apply (hfiled.accepts_iff _ _).mpr
    exact .converted htarget hne hsource hlegal (.inr hexported) hconverted
  inhabited uri literal haccepts := ((hfiled.accepts_iff uri literal).mp haccepts).exists_parse_ok
  source_valid uri literal haccepts := ((hfiled.accepts_iff uri literal).mp haccepts).isValid

/-- Every registry that a run reaches accepts exactly the literals for which there is a reason. -/
theorem accepts_sound_and_complete (settings : Settings) (requests : List Request) :
    ((⟨∅, settings⟩ : Registry HashedStore).run requests).2.DecidesAcceptance :=
  (filed_run settings requests).decidesAcceptance

end Registry

end Datatypes
