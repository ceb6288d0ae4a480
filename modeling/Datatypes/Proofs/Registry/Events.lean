import Datatypes.Proofs.Registry.Answers

/-! # What a registry logs about literals

The events of each question about literals, in order. Parsing logs a lexical value that a
registered datatype finds illegal; a comparison and a test for acceptance add an event of
their own where they cannot go on. The rules of datatypes log nothing.
-/

namespace Datatypes.Registry

open Recorded

variable {σ : Type} [Store σ]

theorem events_isValid (r : Registry σ) (uri lexicalValue : String) :
    (r.isValid uri lexicalValue).events = (r.parse uri lexicalValue).events := by
  unfold isValid
  rw [events_bind]
  split <;> exact List.append_nil _

theorem events_isLegalConversion (d : Datatype) (converted? : Option String) :
    (d.isLegalConversion converted?).events = [] := by
  cases converted? <;> rfl

/-- A literal of another datatype that does not construct is logged as a source that is
rejected, after whatever parsing it has logged. -/
theorem events_accepts (r : Registry σ) (uri : String) (literal : TypedLiteral) :
    (r.accepts uri literal).events =
      if (r.get? uri).isSome ∧ literal.uri ≠ uri then
        (r.parse literal.uri literal.lexicalValue).events ++
          match (r.parse literal.uri literal.lexicalValue).value with
          | .ok _ => []
          | .error e => [.sourceRejected uri e]
      else [] := by
  unfold accepts
  cases r.get? uri with
  | none => rfl
  | some target =>
      by_cases hsame : literal.uri = uri
      · rw [if_neg (fun hother => hother.2 hsame)]
        simp only [if_pos hsame, Datatype.events_isLegal]
      · rw [if_pos ⟨rfl, hsame⟩]
        simp only [if_neg hsame, events_bind]
        cases (r.parse literal.uri literal.lexicalValue).value with
        | error e => rfl
        | ok source =>
            simp only [events_bind, Datatype.events_importFrom, events_isLegalConversion,
              List.nil_append]
            split
            · rfl
            · rw [events_bind, Literal.events_exportTo, events_isLegalConversion]
              rfl

theorem events_parsePair (r : Registry σ) (a b : TypedLiteral) :
    (r.parsePair a b).events =
      (r.parse a.uri a.lexicalValue).events ++
        match (r.parse a.uri a.lexicalValue).value with
        | .ok _ => (r.parse b.uri b.lexicalValue).events
        | .error _ => [] := by
  unfold parsePair
  rw [events_bind]
  cases (r.parse a.uri a.lexicalValue).value with
  | error e => rfl
  | ok left =>
      simp only [events_bind]
      cases (r.parse b.uri b.lexicalValue).value <;> simp only [events_pure, List.append_nil]

/-- A pair that does not parse is logged as a comparison that has failed, after whatever
parsing it has logged. -/
theorem events_equal (r : Registry σ) (a b : TypedLiteral) :
    (r.equal a b).events =
      (r.parsePair a b).events ++
        match (r.parsePair a b).value with
        | .ok _ => []
        | .error e => [.comparisonFailed e] := by
  unfold equal
  rw [events_bind]
  cases (r.parsePair a b).value with
  | error e => rfl
  | ok pair =>
      dsimp only
      split
      · rfl
      · rw [events_bind, Literal.events_equals, List.nil_append]
        split
        · rfl
        · split <;> rfl

theorem events_canonicalise (r : Registry σ) (literal : TypedLiteral) :
    (r.canonicalise literal).events = (r.parse literal.uri literal.lexicalValue).events := by
  unfold canonicalise
  rw [events_bind]
  cases (r.parse literal.uri literal.lexicalValue).value with
  | error e => exact List.append_nil _
  | ok parsed =>
      simp only [events_bind, Literal.events_canonicalise, List.nil_append]
      exact List.append_nil _

end Datatypes.Registry
