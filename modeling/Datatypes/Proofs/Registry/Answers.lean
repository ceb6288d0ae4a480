import Datatypes.Proofs.Literal
import Datatypes.Registry.Run

/-! # What a registry answers about literals

The answers to questions about literals, as functions of the datatypes that the
registry holds under the URIs in the question. Only these datatypes are consulted.
-/

namespace Datatypes.Registry

open Recorded

variable {σ : Type} [Store σ] {r : Registry σ}

/-- A datatype is registered, and under its own URI. -/
def Holds (r : Registry σ) (d : Datatype) : Prop :=
  r.get? d.uri = some d

/-- Every datatype is registered under its own URI. -/
def Filed (r : Registry σ) : Prop :=
  ∀ uri d, r.get? uri = some d → d.uri = uri

theorem Filed.holds (hfiled : r.Filed) {uri : String} {d : Datatype}
    (hget : r.get? uri = some d) : r.Holds d := by
  have huri := hfiled uri d hget
  rw [Holds, huri, hget]

theorem Holds.eq_of_uri_eq {d e : Datatype} (hd : r.Holds d) (he : r.Holds e)
    (huri : e.uri = d.uri) : e = d := by
  rw [Holds, huri] at he
  exact Option.some.inj (he.symm.trans hd)

/-! ## Answers -/

@[simp] theorem value_isLegalConversion (d : Datatype) (converted? : Option String) :
    (d.isLegalConversion converted?).value = converted?.any d.descriptor.isLegal := by
  cases converted? <;> rfl

theorem value_parse (r : Registry σ) (uri lexicalValue : String) :
    (r.parse uri lexicalValue).value =
      match r.get? uri with
      | none => .error (.unknownDatatype uri)
      | some d =>
          if d.descriptor.isLegal lexicalValue then .ok ⟨d, lexicalValue⟩
          else .error (.illegalLexicalValue lexicalValue d.uri) := by
  unfold parse
  cases r.get? uri with
  | none => rfl
  | some d =>
      simp only [value_bind, Datatype.value_construct]
      by_cases hlegal : d.descriptor.isLegal lexicalValue
      · rw [if_pos hlegal, if_pos hlegal]
        rfl
      · rw [if_neg hlegal, if_neg hlegal]
        rfl

/-- Parsing asks the datatype under the URI, if there is one, about legality, and nothing
else. -/
theorem consultations_parse (r : Registry σ) (uri lexicalValue : String) :
    (r.parse uri lexicalValue).consultations =
      ((r.get? uri).map fun d => (d, .legality lexicalValue)).toList := by
  unfold parse
  cases r.get? uri with
  | none => rfl
  | some d =>
      dsimp only
      rw [consultations_bind, Datatype.consultations_construct]
      split <;> rfl

/-- Parsing logs nothing but a lexical value that a registered datatype finds illegal. -/
theorem events_parse (r : Registry σ) (uri lexicalValue : String) :
    (r.parse uri lexicalValue).events =
      match r.get? uri with
      | none => []
      | some d =>
          if d.descriptor.isLegal lexicalValue then []
          else [.illegalLexicalValue uri lexicalValue] := by
  unfold parse
  cases r.get? uri with
  | none => rfl
  | some d =>
      simp only [events_bind, Datatype.value_construct, Datatype.events_construct,
        List.nil_append]
      by_cases hlegal : d.descriptor.isLegal lexicalValue
      · rw [if_pos hlegal, if_pos hlegal]
        rfl
      · rw [if_neg hlegal, if_neg hlegal]
        rfl

theorem value_isValid (r : Registry σ) (uri lexicalValue : String) :
    (r.isValid uri lexicalValue).value = (r.parse uri lexicalValue).value.isOk := by
  unfold isValid
  rw [value_bind]
  cases (r.parse uri lexicalValue).value <;> rfl

/-- A lexical value is valid if there is a datatype under the URI that finds it legal. -/
theorem value_isValid_eq_any (r : Registry σ) (uri lexicalValue : String) :
    (r.isValid uri lexicalValue).value =
      (r.get? uri).any fun d => d.descriptor.isLegal lexicalValue := by
  rw [value_isValid, value_parse]
  cases r.get? uri with
  | none => rfl
  | some d =>
      dsimp only [Option.any_some]
      cases d.descriptor.isLegal lexicalValue <;> rfl

/-- Two literals are equal if both construct and they are identical, or one of the
datatypes that the settings admit says so. -/
theorem value_equal (r : Registry σ) (a b : TypedLiteral) :
    (r.equal a b).value =
      match (r.parse a.uri a.lexicalValue).value, (r.parse b.uri b.lexicalValue).value with
      | .ok left, .ok right =>
          decide (left.toTyped = right.toTyped) ||
            left.datatype.descriptor.equals left.toTyped right.toTyped ||
            r.settings.bidirectionalEquality &&
              right.datatype.descriptor.equals right.toTyped left.toTyped
      | _, _ => false := by
  unfold equal parsePair
  simp only [value_bind]
  cases (r.parse a.uri a.lexicalValue).value with
  | error e => rfl
  | ok left =>
      simp only [value_bind]
      cases (r.parse b.uri b.lexicalValue).value with
      | error e => rfl
      | ok right =>
          simp only [value_pure]
          by_cases hsame : left.toTyped = right.toTyped
          · rw [if_pos hsame, decide_eq_true hsame, Bool.true_or, Bool.true_or]
            rfl
          · rw [if_neg hsame, decide_eq_false hsame, value_bind, Literal.value_equals,
              Bool.false_or]
            cases left.datatype.descriptor.equals left.toTyped right.toTyped with
            | true => rfl
            | false => cases r.settings.bidirectionalEquality <;> rfl

/-- A literal that constructs equals itself, whatever the rule of its datatype says. -/
theorem value_equal_self (r : Registry σ) (a : TypedLiteral) :
    (r.equal a a).value = (r.isValid a.uri a.lexicalValue).value := by
  rw [value_equal, value_isValid]
  cases (r.parse a.uri a.lexicalValue).value with
  | error e => rfl
  | ok literal => simp [Except.isOk, Except.toBool]

/-- A literal has a canonical form if it parses, whatever the rule for canonical forms says. -/
theorem value_canonicalise (r : Registry σ) (t : TypedLiteral) :
    (r.canonicalise t).value = (r.parse t.uri t.lexicalValue).value.map fun l =>
      ⟨l.uri, l.datatype.canonicalValue l.lexicalValue⟩ := by
  unfold canonicalise
  rw [value_bind]
  cases (r.parse t.uri t.lexicalValue).value with
  | error e => rfl
  | ok l =>
      simp only [value_bind, Literal.value_canonicalise]
      rfl

/-- A literal that parses belongs to the datatype registered under the URI. -/
theorem get?_of_parse_ok {uri lexicalValue : String} {l : Literal}
    (hparse : (r.parse uri lexicalValue).value = .ok l) :
    r.get? uri = some l.datatype ∧ l.lexicalValue = lexicalValue ∧
      l.datatype.descriptor.isLegal lexicalValue := by
  rw [value_parse] at hparse
  cases hget : r.get? uri with
  | none =>
      rw [hget] at hparse
      contradiction
  | some d =>
      rw [hget] at hparse
      by_cases hlegal : d.descriptor.isLegal lexicalValue
      · simp only [if_pos hlegal, Except.ok.injEq] at hparse
        rw [← hparse]
        exact ⟨rfl, rfl, hlegal⟩
      · simp only [if_neg hlegal] at hparse
        contradiction

/-- A pair parses only if both of its literals do. -/
theorem parse_of_parsePair_ok {a b : TypedLiteral} {left right : Literal}
    (hparse : (r.parsePair a b).value = .ok (left, right)) :
    (r.parse a.uri a.lexicalValue).value = .ok left ∧
      (r.parse b.uri b.lexicalValue).value = .ok right := by
  unfold parsePair at hparse
  rw [value_bind] at hparse
  cases hleft : (r.parse a.uri a.lexicalValue).value with
  | error e =>
      rw [hleft] at hparse
      contradiction
  | ok l =>
      simp only [hleft, value_bind] at hparse
      cases hright : (r.parse b.uri b.lexicalValue).value with
      | error e =>
          rw [hright] at hparse
          contradiction
      | ok l' =>
          simp only [hright, value_pure, Except.ok.injEq, Prod.mk.injEq] at hparse
          obtain ⟨rfl, rfl⟩ := hparse
          exact ⟨rfl, rfl⟩

namespace Holds

variable {d e : Datatype}

theorem parse (hd : r.Holds d) (lexicalValue : String) :
    (r.parse d.uri lexicalValue).value =
      if d.descriptor.isLegal lexicalValue then .ok ⟨d, lexicalValue⟩
      else .error (.illegalLexicalValue lexicalValue d.uri) := by
  rw [value_parse, hd]

theorem isValid (hd : r.Holds d) (lexicalValue : String) :
    (r.isValid d.uri lexicalValue).value = d.descriptor.isLegal lexicalValue := by
  rw [value_isValid_eq_any, hd, Option.any_some]

theorem accepts_own (hd : r.Holds d) (lexicalValue : String) :
    (r.accepts d.uri ⟨d.uri, lexicalValue⟩).value = d.descriptor.isLegal lexicalValue := by
  unfold Registry.accepts
  rw [hd]
  exact congrArg Recorded.value (if_pos rfl)

/-- A literal of another datatype has to be legal there before it is taken over. -/
theorem accepts_other (hd : r.Holds d) (he : r.Holds e) (hne : e.uri ≠ d.uri)
    (lexicalValue : String) :
    (r.accepts d.uri ⟨e.uri, lexicalValue⟩).value =
      (e.descriptor.isLegal lexicalValue && d.takesOver e lexicalValue) := by
  unfold Registry.accepts
  rw [hd]
  simp only [if_neg hne, value_bind, he.parse]
  cases hlegal : e.descriptor.isLegal lexicalValue with
  | false => rfl
  | true =>
      simp only [if_true, value_bind, Datatype.value_importFrom, value_isLegalConversion,
        Literal.toTyped, Literal.uri, Bool.true_and]
      unfold Datatype.takesOver
      cases (d.imported? ⟨e.uri, lexicalValue⟩).any d.descriptor.isLegal with
      | true => rfl
      | false =>
          simp only [Bool.false_eq_true, if_false, value_bind, Literal.value_exportTo,
            value_isLegalConversion, Literal.toTyped, Literal.uri, Bool.false_or]

/-- Literals of registered datatypes are equal if both are legal and they are identical, or
one of the datatypes that the settings admit says so. -/
theorem equal (hd : r.Holds d) (he : r.Holds e) (x y : String) :
    (r.equal ⟨d.uri, x⟩ ⟨e.uri, y⟩).value =
      (d.descriptor.isLegal x && e.descriptor.isLegal y &&
        (decide (TypedLiteral.mk d.uri x = ⟨e.uri, y⟩) ||
          d.descriptor.equals ⟨d.uri, x⟩ ⟨e.uri, y⟩ ||
          r.settings.bidirectionalEquality &&
            e.descriptor.equals ⟨e.uri, y⟩ ⟨d.uri, x⟩)) := by
  rw [value_equal, hd.parse, he.parse]
  cases d.descriptor.isLegal x with
  | false => rfl
  | true =>
      cases e.descriptor.isLegal y with
      | false => rfl
      | true => rfl

theorem canonicalise (hd : r.Holds d) (lexicalValue : String) :
    (r.canonicalise ⟨d.uri, lexicalValue⟩).value =
      if d.descriptor.isLegal lexicalValue then .ok ⟨d.uri, d.canonicalValue lexicalValue⟩
      else .error (.illegalLexicalValue lexicalValue d.uri) := by
  rw [value_canonicalise, hd.parse]
  cases d.descriptor.isLegal lexicalValue <;> rfl

end Holds

/-! ## Consultations -/

section Consultations

variable {allowed : Datatype → Prop}

/-- No registration consults a rule. -/
theorem onlyConsults_insert (r : Registry σ) (d : Datatype) :
    (r.insert d).OnlyConsults allowed := by
  unfold insert
  split <;> exact (OnlyConsults.log _).bind (.pure _)

theorem onlyConsults_register (r : Registry σ) (offer : Offer) :
    (r.register offer).OnlyConsults allowed := by
  unfold register
  split
  · exact (OnlyConsults.log _).bind (.pure _)
  · exact r.onlyConsults_insert _

theorem onlyConsults_define (r : Registry σ) (definition? : Option Definition) :
    (r.define definition?).OnlyConsults allowed := by
  unfold define
  cases definition? with
  | none => exact (OnlyConsults.log _).bind (.pure _)
  | some definition =>
      dsimp only
      cases definition.complete with
      | error e => exact (OnlyConsults.log _).bind (.pure _)
      | ok complete => exact r.onlyConsults_register _

theorem onlyConsults_registerBatch (r : Registry σ) (offers : List Offer) :
    (r.registerBatch offers).OnlyConsults allowed := by
  induction offers generalizing r with
  | nil => exact .pure _
  | cons offer rest ih =>
      have hitem : (r.registerItem offer).OnlyConsults allowed := by
        refine (r.onlyConsults_register offer.next).bind ?_
        split <;> exact .pure _
      exact hitem.bind ((ih _).bind (.pure _))

variable (hallowed : ∀ uri d, r.get? uri = some d → allowed d)
include hallowed

theorem onlyConsults_parse (uri lexicalValue : String) :
    (r.parse uri lexicalValue).OnlyConsults allowed := by
  unfold parse
  cases hget : r.get? uri with
  | none => exact .pure _
  | some d =>
      refine (Datatype.onlyConsults_construct (hallowed uri d hget) lexicalValue).bind ?_
      split
      · exact .pure _
      · exact (OnlyConsults.log _).bind (.pure _)

theorem allowed_of_parse_ok {uri lexicalValue : String} {l : Literal}
    (hparse : (r.parse uri lexicalValue).value = .ok l) : allowed l.datatype :=
  hallowed uri l.datatype (get?_of_parse_ok hparse).1

theorem onlyConsults_accepts (uri : String) (literal : TypedLiteral) :
    (r.accepts uri literal).OnlyConsults allowed := by
  unfold accepts
  cases hget : r.get? uri with
  | none => exact .pure _
  | some target =>
      have htarget := hallowed uri target hget
      have hconversion (converted? : Option String) :
          (target.isLegalConversion converted?).OnlyConsults allowed := by
        cases converted? with
        | none => exact .pure _
        | some lexicalValue => exact Datatype.onlyConsults_isLegal htarget lexicalValue
      dsimp only
      split
      · exact Datatype.onlyConsults_isLegal htarget _
      · refine (onlyConsults_parse hallowed _ _).bind ?_
        split
        · exact (OnlyConsults.log _).bind (.pure _)
        next source hparse =>
          refine (Datatype.onlyConsults_importFrom htarget _).bind ((hconversion _).bind ?_)
          split
          · exact .pure _
          · exact (Literal.onlyConsults_exportTo
              (allowed_of_parse_ok hallowed hparse) uri).bind (hconversion _)

theorem onlyConsults_parsePair (a b : TypedLiteral) :
    (r.parsePair a b).OnlyConsults allowed := by
  refine (onlyConsults_parse hallowed _ _).bind ?_
  split
  · exact .pure _
  · refine (onlyConsults_parse hallowed _ _).bind ?_
    split <;> exact .pure _

theorem allowed_of_parsePair_ok {a b : TypedLiteral} {left right : Literal}
    (hparse : (r.parsePair a b).value = .ok (left, right)) :
    allowed left.datatype ∧ allowed right.datatype := by
  obtain ⟨hleft, hright⟩ := parse_of_parsePair_ok hparse
  exact ⟨allowed_of_parse_ok hallowed hleft, allowed_of_parse_ok hallowed hright⟩

theorem onlyConsults_equal (a b : TypedLiteral) : (r.equal a b).OnlyConsults allowed := by
  refine (onlyConsults_parsePair hallowed a b).bind ?_
  split
  · exact (OnlyConsults.log _).bind (.pure _)
  next left right hparse =>
    obtain ⟨hleft, hright⟩ := allowed_of_parsePair_ok hallowed hparse
    split
    · exact .pure _
    · refine (Literal.onlyConsults_equals hleft _).bind ?_
      split
      · exact .pure _
      · split
        · exact Literal.onlyConsults_equals hright _
        · exact .pure _

theorem onlyConsults_canonicalise (literal : TypedLiteral) :
    (r.canonicalise literal).OnlyConsults allowed := by
  refine (onlyConsults_parse hallowed _ _).bind ?_
  split
  · exact .pure _
  next parsed hparse =>
    exact (Literal.onlyConsults_canonicalise (allowed_of_parse_ok hallowed hparse)).bind
      (.pure _)

/-- Whatever a registry is asked, it consults registered datatypes only. -/
theorem onlyConsults_step (request : Request) : (r.step request).OnlyConsults allowed := by
  cases request with
  | register offer => exact (r.onlyConsults_register offer).map _
  | define definition? => exact (r.onlyConsults_define definition?).map _
  | registerBatch offers => exact (r.onlyConsults_registerBatch offers).map _
  | parse uri lexicalValue => exact (onlyConsults_parse hallowed uri lexicalValue).map _
  | isValid uri lexicalValue =>
      refine OnlyConsults.map ((onlyConsults_parse hallowed uri lexicalValue).bind ?_) _
      split <;> exact .pure _
  | accepts uri literal => exact (onlyConsults_accepts hallowed uri literal).map _
  | equal a b => exact (onlyConsults_equal hallowed a b).map _
  | canonicalise literal => exact (onlyConsults_canonicalise hallowed literal).map _
  | get uri | uris | contains uri | size | isEmpty => exact .pure _

end Consultations

end Datatypes.Registry
