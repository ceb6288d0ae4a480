import Datatypes.Proofs.Registry.Coherence

/-! # Rules see vetted literals only

A registry consults the rules of datatypes in a fixed order. Whatever a literal is shown to,
be it a rule for equality, a conversion or a canonical form, its own datatype has been asked
before, in the same call, and has found it legal. Of two conversions or two directions the
second is asked for only if the first has come to nothing.
-/

namespace Datatypes

/-- The question is about the legality of a lexical value. -/
def Question.OnLegality (question : Question) : Prop :=
  ∃ lexicalValue, question = .legality lexicalValue

/-- The question that a literal has passed. -/
def Literal.vetting (l : Literal) : Datatype × Question :=
  (l.datatype, .legality l.lexicalValue)

/-- The question whether a literal equals another, put to its own datatype. -/
def Literal.comparison (l other : Literal) : Datatype × Question :=
  (l.datatype, .equality l.toTyped other.toTyped)

/-- The typed literals that are put to a registry with a request. -/
def Request.literals : Request → List TypedLiteral
  | .parse uri lexicalValue | .isValid uri lexicalValue => [⟨uri, lexicalValue⟩]
  | .accepts _ literal | .canonicalise literal => [literal]
  | .equal a b => [a, b]
  | _ => []

namespace Registry

open Recorded

variable {σ : Type} [Store σ] {r : Registry σ}

/-- The datatype is the one registered for the literal, and it has been asked whether the
lexical value is legal, which it is. -/
structure Vetted (r : Registry σ) (earlier : List (Datatype × Question)) (d : Datatype)
    (literal : TypedLiteral) : Prop where
  get? : r.get? literal.uri = some d
  asked : (d, .legality literal.lexicalValue) ∈ earlier
  legal : d.descriptor.isLegal literal.lexicalValue

/-- The target has been asked, if it has a rule for that, to import the literal, and if it
gave a lexical value, it has been asked about that and found it illegal. -/
structure NothingImported (earlier : List (Datatype × Question)) (target : Datatype)
    (literal : TypedLiteral) : Prop where
  asked : target.descriptor.importFrom?.isSome → (target, .importFrom literal) ∈ earlier
  illegal : ∀ lexicalValue, target.imported? literal = some lexicalValue →
    (target, .legality lexicalValue) ∈ earlier ∧
      target.descriptor.isLegal lexicalValue = false

/-- What has to come before a consultation in a call. -/
def Warranted (r : Registry σ) (earlier : List (Datatype × Question)) :
    Datatype × Question → Prop
  | (_, .legality _) => True
  | (d, .equality this other) => r.Vetted earlier d this ∧ ∃ e, r.Vetted earlier e other
  | (d, .canonicalForm lexicalValue) => r.Vetted earlier d ⟨d.uri, lexicalValue⟩
  | (d, .importFrom other) =>
      r.Holds d ∧ other.uri ≠ d.uri ∧ ∃ e, r.Vetted earlier e other
  | (d, .exportTo this uri) =>
      r.Vetted earlier d this ∧ this.uri ≠ uri ∧
        ∃ target, r.get? uri = some target ∧ NothingImported earlier target this

/-! ## What is consulted -/

theorem consultations_of_parse_ok {uri lexicalValue : String} {l : Literal}
    (hparse : (r.parse uri lexicalValue).value = .ok l) :
    (r.parse uri lexicalValue).consultations = [l.vetting] := by
  obtain ⟨hget, rfl, -⟩ := get?_of_parse_ok hparse
  rw [consultations_parse, hget]
  rfl

theorem consultations_of_parsePair_ok {a b : TypedLiteral} {left right : Literal}
    (hparse : (r.parsePair a b).value = .ok (left, right)) :
    (r.parsePair a b).consultations = [left.vetting, right.vetting] := by
  obtain ⟨hleft, hright⟩ := parse_of_parsePair_ok hparse
  unfold parsePair
  simp only [consultations_bind, hleft, hright, consultations_of_parse_ok hleft,
    consultations_of_parse_ok hright]
  rfl

/-- What a conversion into a datatype consults: the rule, and legality of what it gives. -/
def importing (target : Datatype) (literal : TypedLiteral) : List (Datatype × Question) :=
  (target.importFrom literal).consultations ++
    (target.isLegalConversion (target.imported? literal)).consultations

theorem nothingImported_of_importing {earlier : List (Datatype × Question)} {target : Datatype}
    {literal : TypedLiteral} (hearlier : ∀ c ∈ importing target literal, c ∈ earlier)
    (hnothing : (target.imported? literal).any target.descriptor.isLegal = false) :
    NothingImported earlier target literal where
  asked hrule := by
    apply hearlier
    apply List.mem_append_left
    obtain ⟨convert, hconvert⟩ := Option.isSome_iff_exists.mp hrule
    simp only [Datatype.importFrom, hconvert]
    exact List.mem_singleton_self _
  illegal lexicalValue himported := by
    rw [himported] at hnothing
    refine ⟨?_, hnothing⟩
    apply hearlier
    apply List.mem_append_right
    rw [himported]
    exact List.mem_singleton_self _

/-! ## The order of consultations

For each kind of question, what has been consulted when a rule other than legality is. -/

section Order

variable {allowed : List (Datatype × Question) → Datatype × Question → Prop}
  (hlegality : ∀ earlier d lexicalValue, allowed earlier (d, .legality lexicalValue))
include hlegality

theorem asksInTurn_isLegal (earlier : List (Datatype × Question)) (d : Datatype)
    (lexicalValue : String) : (d.isLegal lexicalValue).AsksInTurn allowed earlier :=
  (AsksInTurn.consult (hlegality _ _ _)).bind (.pure _)

theorem asksInTurn_isLegalConversion (earlier : List (Datatype × Question)) (d : Datatype)
    (converted? : Option String) :
    (d.isLegalConversion converted?).AsksInTurn allowed earlier := by
  cases converted? with
  | none => exact .pure _
  | some lexicalValue => exact asksInTurn_isLegal hlegality earlier d lexicalValue

theorem asksInTurn_construct (earlier : List (Datatype × Question)) (d : Datatype)
    (lexicalValue : String) : (d.construct lexicalValue).AsksInTurn allowed earlier := by
  refine (asksInTurn_isLegal hlegality earlier d lexicalValue).bind ?_
  split <;> exact .pure _

theorem asksInTurn_parse (earlier : List (Datatype × Question)) (uri lexicalValue : String) :
    (r.parse uri lexicalValue).AsksInTurn allowed earlier := by
  unfold parse
  cases r.get? uri with
  | none => exact .pure _
  | some d =>
      refine (asksInTurn_construct hlegality earlier d lexicalValue).bind ?_
      split
      · exact .pure _
      · exact (AsksInTurn.log _).bind (.pure _)

theorem asksInTurn_parsePair (earlier : List (Datatype × Question)) (a b : TypedLiteral) :
    (r.parsePair a b).AsksInTurn allowed earlier := by
  refine (asksInTurn_parse hlegality earlier _ _).bind ?_
  split
  · exact .pure _
  · refine (asksInTurn_parse hlegality _ _ _).bind ?_
    split <;> exact .pure _

/-- A comparison comes to rules for equality only when both literals are vetted, and to the
second one only when the first has said no. -/
theorem asksInTurn_equal {a b : TypedLiteral}
    (hfirst : ∀ left right, (r.parse a.uri a.lexicalValue).value = .ok left →
      (r.parse b.uri b.lexicalValue).value = .ok right → left.toTyped ≠ right.toTyped →
        allowed [left.vetting, right.vetting] (left.comparison right))
    (hsecond : ∀ left right, (r.parse a.uri a.lexicalValue).value = .ok left →
      (r.parse b.uri b.lexicalValue).value = .ok right → left.toTyped ≠ right.toTyped →
        left.datatype.descriptor.equals left.toTyped right.toTyped = false →
          r.settings.bidirectionalEquality = true →
            allowed [left.vetting, right.vetting, left.comparison right]
              (right.comparison left)) :
    (r.equal a b).AsksInTurn allowed [] := by
  refine (asksInTurn_parsePair hlegality [] a b).bind ?_
  cases hpair : (r.parsePair a b).value with
  | error e => exact (AsksInTurn.log _).bind (.pure _)
  | ok pair =>
      obtain ⟨left, right⟩ := pair
      obtain ⟨hleft, hright⟩ := parse_of_parsePair_ok hpair
      rw [consultations_of_parsePair_ok hpair]
      dsimp only
      split
      · exact .pure _
      next hne =>
        refine AsksInTurn.bind ?_ ?_
        · exact (AsksInTurn.consult (hfirst left right hleft hright hne)).bind (.pure _)
        · rw [Literal.value_equals]
          split
          · exact .pure _
          next hno =>
            split
            next hboth =>
              have hsaid := Bool.eq_false_iff.mpr hno
              exact (AsksInTurn.consult
                (hsecond left right hleft hright hne hsaid hboth)).bind (.pure _)
            next => exact .pure _

/-- A literal of another datatype comes to conversions only when it is vetted, and to its
own datatype's only when the target's has come to nothing. -/
theorem asksInTurn_accepts {uri : String} {literal : TypedLiteral}
    (himport : ∀ target source, r.get? uri = some target → literal.uri ≠ uri →
      (r.parse literal.uri literal.lexicalValue).value = .ok source →
        allowed [source.vetting] (target, .importFrom source.toTyped))
    (hexport : ∀ target source, r.get? uri = some target → literal.uri ≠ uri →
      (r.parse literal.uri literal.lexicalValue).value = .ok source →
        (target.imported? source.toTyped).any target.descriptor.isLegal = false →
          allowed (source.vetting :: importing target source.toTyped)
            (source.datatype, .exportTo source.toTyped uri)) :
    (r.accepts uri literal).AsksInTurn allowed [] := by
  unfold accepts
  cases hget : r.get? uri with
  | none => exact .pure _
  | some target =>
      dsimp only
      split
      · exact asksInTurn_isLegal hlegality [] target literal.lexicalValue
      next hne =>
        refine (asksInTurn_parse hlegality [] _ _).bind ?_
        cases hparse : (r.parse literal.uri literal.lexicalValue).value with
        | error e => exact (AsksInTurn.log _).bind (.pure _)
        | ok source =>
            rw [consultations_of_parse_ok hparse]
            refine AsksInTurn.bind ?_ (AsksInTurn.bind ?_ ?_)
            · unfold Datatype.importFrom
              cases target.descriptor.importFrom? with
              | none => exact .pure _
              | some convert =>
                  exact (AsksInTurn.consult (himport target source hget hne hparse)).bind
                    (.pure _)
            · exact asksInTurn_isLegalConversion hlegality _ target _
            · rw [Datatype.value_importFrom, value_isLegalConversion]
              split
              · exact .pure _
              next hno =>
                have hnothing := Bool.eq_false_iff.mpr hno
                refine AsksInTurn.bind ?_ (asksInTurn_isLegalConversion hlegality _ target _)
                unfold Literal.exportTo
                cases source.datatype.descriptor.exportTo? with
                | none => exact .pure _
                | some convert =>
                    refine (AsksInTurn.consult ?_).bind (.pure _)
                    rw [List.append_assoc]
                    exact hexport target source hget hne hparse hnothing

/-- A literal comes to its datatype's canonical form only when it is vetted. -/
theorem asksInTurn_canonicalise {literal : TypedLiteral}
    (hform : ∀ parsed, (r.parse literal.uri literal.lexicalValue).value = .ok parsed →
      allowed [parsed.vetting] (parsed.datatype, .canonicalForm parsed.lexicalValue)) :
    (r.canonicalise literal).AsksInTurn allowed [] := by
  refine (asksInTurn_parse hlegality [] _ _).bind ?_
  cases hparse : (r.parse literal.uri literal.lexicalValue).value with
  | error e => exact .pure _
  | ok parsed =>
      rw [consultations_of_parse_ok hparse]
      refine AsksInTurn.bind ?_ (.pure _)
      unfold Literal.canonicalise
      refine AsksInTurn.bind ?_ ?_
      · unfold Datatype.canonicalForm
        cases parsed.datatype.descriptor.canonicalForm? with
        | none => exact .pure _
        | some form => exact (AsksInTurn.consult (hform parsed hparse)).bind (.pure _)
      · split
        · exact .pure _
        · refine (asksInTurn_construct hlegality _ _ _).bind ?_
          split <;> exact .pure _

end Order

/-! ## Vetting -/

theorem Filed.toTyped_of_parse_ok (hfiled : r.Filed) {t : TypedLiteral} {l : Literal}
    (hparse : (r.parse t.uri t.lexicalValue).value = .ok l) : l.toTyped = t := by
  obtain ⟨huri, hlexical⟩ := hfiled.uri_of_parse_ok hparse
  rw [Literal.toTyped, huri, hlexical]

theorem Filed.comparison_eq (hfiled : r.Filed) {a b : TypedLiteral} {left right : Literal}
    (hleft : (r.parse a.uri a.lexicalValue).value = .ok left)
    (hright : (r.parse b.uri b.lexicalValue).value = .ok right) :
    left.comparison right = (left.datatype, .equality a b) := by
  rw [Literal.comparison, hfiled.toTyped_of_parse_ok hleft, hfiled.toTyped_of_parse_ok hright]

theorem vetted_of_parse_ok {t : TypedLiteral} {l : Literal}
    (hparse : (r.parse t.uri t.lexicalValue).value = .ok l)
    {earlier : List (Datatype × Question)} (hasked : l.vetting ∈ earlier) :
    r.Vetted earlier l.datatype t := by
  obtain ⟨hget, hlexical, hlegal⟩ := get?_of_parse_ok hparse
  rw [Literal.vetting, hlexical] at hasked
  exact ⟨hget, hasked, hlegal⟩

section Warranted

variable (hfiled : r.Filed)
include hfiled

theorem warranted_equal (a b : TypedLiteral) : (r.equal a b).AsksInTurn r.Warranted [] := by
  refine asksInTurn_equal (fun _ _ _ => trivial) ?_ ?_
  · intro left right hleft hright _
    rw [hfiled.comparison_eq hleft hright]
    refine ⟨vetted_of_parse_ok hleft ?_, right.datatype, vetted_of_parse_ok hright ?_⟩
    · exact List.mem_cons_self
    · exact List.mem_cons_of_mem _ List.mem_cons_self
  · intro left right hleft hright _ _ _
    rw [hfiled.comparison_eq hright hleft]
    refine ⟨vetted_of_parse_ok hright ?_, left.datatype, vetted_of_parse_ok hleft ?_⟩
    · exact List.mem_cons_of_mem _ List.mem_cons_self
    · exact List.mem_cons_self

theorem warranted_accepts (uri : String) (literal : TypedLiteral) :
    (r.accepts uri literal).AsksInTurn r.Warranted [] := by
  refine asksInTurn_accepts (fun _ _ _ => trivial) ?_ ?_
  · intro target source hget hne hparse
    have hvetted := vetted_of_parse_ok hparse (List.mem_singleton_self source.vetting)
    have hother : literal.uri ≠ target.uri := by
      rw [hfiled uri target hget]
      exact hne
    rw [hfiled.toTyped_of_parse_ok hparse]
    exact ⟨hfiled.holds hget, hother, source.datatype, hvetted⟩
  · intro target source hget hne hparse hnothing
    have hvetted := vetted_of_parse_ok hparse
      (List.mem_cons_self (a := source.vetting) (l := importing target source.toTyped))
    have hfailed := nothingImported_of_importing
      (fun c hc => List.mem_cons_of_mem source.vetting hc) hnothing
    rw [hfiled.toTyped_of_parse_ok hparse] at hvetted hfailed ⊢
    exact ⟨hvetted, hne, target, hget, hfailed⟩

theorem warranted_canonicalise (literal : TypedLiteral) :
    (r.canonicalise literal).AsksInTurn r.Warranted [] := by
  refine asksInTurn_canonicalise (fun _ _ _ => trivial) ?_
  intro parsed hparse
  have hliteral : (⟨parsed.datatype.uri, parsed.lexicalValue⟩ : TypedLiteral) = literal :=
    hfiled.toTyped_of_parse_ok hparse
  rw [Warranted, hliteral]
  exact vetted_of_parse_ok hparse (List.mem_singleton_self _)

/-- Whatever a registry is asked, each rule is consulted only when all that has to come before
has come before. -/
theorem warranted_step (request : Request) : (r.step request).AsksInTurn r.Warranted [] := by
  cases request with
  | register offer => exact (AsksInTurn.of_none (r.onlyConsults_register offer)).map _
  | define definition? => exact (AsksInTurn.of_none (r.onlyConsults_define definition?)).map _
  | registerBatch offers => exact (AsksInTurn.of_none (r.onlyConsults_registerBatch offers)).map _
  | parse uri lexicalValue =>
      exact (asksInTurn_parse (fun _ _ _ => trivial) [] uri lexicalValue).map _
  | isValid uri lexicalValue =>
      refine ((asksInTurn_parse (fun _ _ _ => trivial) [] uri lexicalValue).bind ?_).map _
      split <;> exact .pure _
  | accepts uri literal => exact (warranted_accepts hfiled uri literal).map _
  | equal a b => exact (warranted_equal hfiled a b).map _
  | canonicalise literal => exact (warranted_canonicalise hfiled literal).map _
  | get _ | uris | contains _ | size | isEmpty => exact .pure _

/-- The datatype of the second literal is asked for its own opinion only when that of the
first has said no, and only if the settings are for both directions. -/
theorem second_direction_last (a b : TypedLiteral) :
    (r.equal a b).AsksInTurn (fun earlier consultation =>
      ∀ d, consultation = (d, .equality b a) →
        r.settings.bidirectionalEquality = true ∧ ∃ e, r.get? a.uri = some e ∧
          (e, .equality a b) ∈ earlier ∧ e.descriptor.equals a b = false) [] := by
  refine asksInTurn_equal ?_ ?_ ?_
  · intro earlier d lexicalValue e heq
    injection heq with _ hquestion
    contradiction
  · intro left right hleft hright hne d heq
    rw [hfiled.toTyped_of_parse_ok hleft, hfiled.toTyped_of_parse_ok hright] at hne
    rw [hfiled.comparison_eq hleft hright] at heq
    injection heq with _ hquestion
    injection hquestion with hsame
    exact absurd hsame hne
  · intro left right hleft hright _ hno hboth d _
    rw [hfiled.toTyped_of_parse_ok hleft, hfiled.toTyped_of_parse_ok hright] at hno
    have hasked : (left.datatype, .equality a b) ∈
        [left.vetting, right.vetting, left.comparison right] := by
      rw [hfiled.comparison_eq hleft hright]
      exact List.mem_append_right [left.vetting, right.vetting] (List.mem_singleton_self _)
    exact ⟨hboth, left.datatype, (get?_of_parse_ok hleft).1, hasked, hno⟩

end Warranted

/-! ## Literals that do not construct -/

/-- If one of the literals that come with a request does not construct, only legality is
asked about. -/
theorem onLegality_of_refused {request : Request} {t : TypedLiteral}
    (hmem : t ∈ request.literals)
    (hrefused : ∀ l, (r.parse t.uri t.lexicalValue).value ≠ .ok l) :
    (r.step request).AsksInTurn (fun _ consultation => consultation.2.OnLegality) [] := by
  have hlegality : ∀ (earlier : List (Datatype × Question)) (d : Datatype) lexicalValue,
      Question.OnLegality (d, Question.legality lexicalValue).2 :=
    fun _ _ lexicalValue => ⟨lexicalValue, rfl⟩
  cases request with
  | parse uri lexicalValue => exact (asksInTurn_parse hlegality [] uri lexicalValue).map _
  | isValid uri lexicalValue =>
      refine ((asksInTurn_parse hlegality [] uri lexicalValue).bind ?_).map _
      split <;> exact .pure _
  | accepts uri literal =>
      obtain rfl := List.mem_singleton.mp hmem
      refine (asksInTurn_accepts hlegality ?_ ?_).map _
      · intro target source _ _ hparse
        exact absurd hparse (hrefused source)
      · intro target source _ _ hparse _
        exact absurd hparse (hrefused source)
  | equal a b =>
      have hpair : ∀ left right, (r.parse a.uri a.lexicalValue).value = .ok left →
          (r.parse b.uri b.lexicalValue).value = .ok right → False := by
        intro left right hleft hright
        rcases List.mem_cons.mp hmem with rfl | hmem
        · exact hrefused left hleft
        · obtain rfl := List.mem_singleton.mp hmem
          exact hrefused right hright
      refine (asksInTurn_equal hlegality ?_ ?_).map _
      · intro left right hleft hright _
        exact (hpair left right hleft hright).elim
      · intro left right hleft hright _ _ _
        exact (hpair left right hleft hright).elim
  | canonicalise literal =>
      obtain rfl := List.mem_singleton.mp hmem
      refine (asksInTurn_canonicalise hlegality ?_).map _
      intro parsed hparse
      exact absurd hparse (hrefused parsed)
  | register _ | define _ | registerBatch _ | get _ | uris | contains _ | size | isEmpty =>
      contradiction

/-- A literal is compared with itself without a rule for equality. -/
theorem onLegality_equal_self (a : TypedLiteral) :
    (r.equal a a).AsksInTurn (fun _ consultation => consultation.2.OnLegality) [] := by
  refine asksInTurn_equal (fun _ _ lexicalValue => ⟨lexicalValue, rfl⟩) ?_ ?_
  · intro left right hleft hright hne
    have hsame : left = right := Except.ok.inj (hleft.symm.trans hright)
    exact absurd (congrArg Literal.toTyped hsame) hne
  · intro left right hleft hright hne _ _
    have hsame : left = right := Except.ok.inj (hleft.symm.trans hright)
    exact absurd (congrArg Literal.toTyped hsame) hne

/-! ## Summary -/

/-- The rules of datatypes are shown vetted literals, and are asked in turn. -/
structure ShowsVettedOnly (r : Registry σ) : Prop where
  /-- Before a rule for equality, a conversion or a canonical form is consulted, the same call
  has done what that consultation takes. -/
  warranted : ∀ request before consultation after,
    (r.step request).consultations = before ++ consultation :: after →
      r.Warranted before consultation
  /-- A literal that is unknown or refused is shown to nothing but legality rules. -/
  refused : ∀ request, ∀ t ∈ request.literals,
    (∀ l, (r.parse t.uri t.lexicalValue).value ≠ .ok l) →
      ∀ consultation ∈ (r.step request).consultations, consultation.2.OnLegality
  identical : ∀ a, ∀ consultation ∈ (r.equal a a).consultations, consultation.2.OnLegality
  second_direction : ∀ a b before d after,
    (r.equal a b).consultations = before ++ (d, .equality b a) :: after →
      r.settings.bidirectionalEquality = true ∧ ∃ e, r.get? a.uri = some e ∧
        (e, .equality a b) ∈ before ∧ e.descriptor.equals a b = false
  /-- No registration consults any rule. -/
  register : ∀ offer, (r.register offer).consultations = []
  define : ∀ definition?, (r.define definition?).consultations = []
  registerBatch : ∀ offers, (r.registerBatch offers).consultations = []

theorem Filed.showsVettedOnly (hfiled : r.Filed) : r.ShowsVettedOnly where
  warranted := warranted_step hfiled
  refused _ _ hmem hrefused _ hconsulted := (onLegality_of_refused hmem hrefused).of_mem hconsulted
  identical a _ hconsulted := (onLegality_equal_self a).of_mem hconsulted
  second_direction a b before d after hsplit :=
    second_direction_last hfiled a b before (d, .equality b a) after hsplit d rfl
  register offer := (r.onlyConsults_register offer).consultations_eq_nil
  define definition? := (r.onlyConsults_define definition?).consultations_eq_nil
  registerBatch offers := (r.onlyConsults_registerBatch offers).consultations_eq_nil

/-- In every registry that a run reaches, rules see only literals that their own datatype has
found legal in the same call. -/
theorem rules_see_vetted_literals_only (settings : Settings) (requests : List Request) :
    ((⟨∅, settings⟩ : Registry HashedStore).run requests).2.ShowsVettedOnly :=
  (filed_run settings requests).showsVettedOnly

end Registry

end Datatypes
