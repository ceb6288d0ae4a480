import Datatypes.Proofs.Registry.Consultations
import Datatypes.Proofs.Registry.Events
import Datatypes.Proofs.Store.Hashed

/-! # The log tells a failure from an answer

Whether two literals are equal, or one is accepted, is answered with no also where a literal does
not construct, and only the log shows that nothing has been compared or converted then. It says
which literal failed first and why. Where a registered datatype finds the lexical value illegal
there is a line about this right before; an unknown datatype has none. In all other cases the
questions about literals leave the log as it is.
-/

namespace Datatypes

/-! ## Lines of the log -/

/-- An event as it stands in the log. -/
structure LogLine where
  level : Level
  text : String
  fields : Text.Fields

def Event.line (event : Event) : LogLine :=
  ⟨event.level, event.message, event.fields⟩

namespace LogLine

/-- A registered datatype finds a lexical value illegal. -/
def illegalValue (t : TypedLiteral) : LogLine :=
  ⟨.debug, "illegal lexical value", [("uri", t.uri), ("lexical_value", t.lexicalValue)]⟩

/-- Two literals have not been compared. -/
def comparisonFailed (e : RegistryError) : LogLine :=
  ⟨.debug, "literal comparison failed, treating as unequal", [("error", e.message)]⟩

/-- A literal has not been converted for the datatype with the URI. -/
def sourceRejected (uri : String) (e : RegistryError) : LogLine :=
  ⟨.debug, "source literal rejected", [("uri", uri), ("error", e.message)]⟩

end LogLine

/-- The lines that an operation adds to the log. -/
def Recorded.lines {α : Type} (result : Recorded α) : List LogLine :=
  result.events.map Event.line

namespace Registry

open Recorded

section Lines

variable {σ : Type} [Store σ] {r : Registry σ}

def Constructs (r : Registry σ) (t : TypedLiteral) : Prop :=
  ∃ l, (r.parse t.uri t.lexicalValue).value = .ok l

/-- A typed literal does not construct, for this reason. -/
def Refuses (r : Registry σ) (t : TypedLiteral) (e : RegistryError) : Prop :=
  (r.parse t.uri t.lexicalValue).value = .error e

/-- Of two literals this is the first one that does not construct. The second is not looked at
before the first constructs. -/
inductive FirstRefused (r : Registry σ) (a b : TypedLiteral) :
    TypedLiteral → RegistryError → Prop where
  | left {e : RegistryError} (refused : r.Refuses a e) : FirstRefused r a b a e
  | right {e : RegistryError} (constructs : r.Constructs a) (refused : r.Refuses b e) :
      FirstRefused r a b b e

/-- What is logged about a literal itself that does not construct: its lexical value, if there is
a datatype to find that illegal. -/
def diagnosis (r : Registry σ) (t : TypedLiteral) : List LogLine :=
  if (r.get? t.uri).isSome then [.illegalValue t] else []

/-! ## Literals that do not construct -/

theorem not_constructs_iff (r : Registry σ) (t : TypedLiteral) :
    ¬ r.Constructs t ↔ ∃ e, r.Refuses t e := by
  unfold Constructs Refuses
  cases (r.parse t.uri t.lexicalValue).value <;> simp

theorem exists_firstRefused_iff (r : Registry σ) (a b : TypedLiteral) :
    (∃ t e, r.FirstRefused a b t e) ↔ ¬ (r.Constructs a ∧ r.Constructs b) := by
  constructor
  · rintro ⟨_, e, hrefused | ⟨-, hrefused⟩⟩ ⟨ha, hb⟩
    · exact (r.not_constructs_iff a).mpr ⟨e, hrefused⟩ ha
    · exact (r.not_constructs_iff b).mpr ⟨e, hrefused⟩ hb
  · intro hfails
    by_cases ha : r.Constructs a
    · obtain ⟨e, hrefused⟩ := (r.not_constructs_iff b).mp fun hb => hfails ⟨ha, hb⟩
      exact ⟨b, e, .right ha hrefused⟩
    · obtain ⟨e, hrefused⟩ := (r.not_constructs_iff a).mp ha
      exact ⟨a, e, .left hrefused⟩

/-- A literal of a registered datatype constructs unless the datatype finds it illegal. -/
theorem Refuses.illegal {t : TypedLiteral} {e : RegistryError} (hrefused : r.Refuses t e)
    {d : Datatype} (hget : r.get? t.uri = some d) :
    d.descriptor.isLegal t.lexicalValue = false := by
  rw [Refuses, value_parse, hget] at hrefused
  apply Bool.eq_false_iff.mpr
  intro hlegal
  simp only [if_pos hlegal] at hrefused
  contradiction

theorem Refuses.lines_parse {t : TypedLiteral} {e : RegistryError} (hrefused : r.Refuses t e) :
    (r.parse t.uri t.lexicalValue).lines = r.diagnosis t := by
  rw [lines, events_parse, diagnosis]
  cases hget : r.get? t.uri with
  | none => rfl
  | some d =>
      dsimp only
      rw [hrefused.illegal hget]
      rfl

theorem Constructs.lines_parse {t : TypedLiteral} (hconstructs : r.Constructs t) :
    (r.parse t.uri t.lexicalValue).lines = [] := by
  obtain ⟨l, hparse⟩ := hconstructs
  obtain ⟨hget, -, hlegal⟩ := get?_of_parse_ok hparse
  rw [lines, events_parse, hget]
  dsimp only
  rw [if_pos hlegal]
  rfl

/-! ## Questions about one literal -/

theorem lines_parse (r : Registry σ) (t : TypedLiteral) :
    (r.parse t.uri t.lexicalValue).lines =
      match (r.parse t.uri t.lexicalValue).value with
      | .ok _ => []
      | .error _ => r.diagnosis t := by
  cases hparse : (r.parse t.uri t.lexicalValue).value with
  | ok l => exact Constructs.lines_parse ⟨l, hparse⟩
  | error e => exact Refuses.lines_parse hparse

theorem lines_isValid (r : Registry σ) (t : TypedLiteral) :
    (r.isValid t.uri t.lexicalValue).lines = (r.parse t.uri t.lexicalValue).lines := by
  rw [lines, events_isValid, lines]

theorem lines_canonicalise (r : Registry σ) (t : TypedLiteral) :
    (r.canonicalise t).lines = (r.parse t.uri t.lexicalValue).lines := by
  rw [lines, events_canonicalise, lines]

/-! ## Acceptance -/

theorem lines_accepts_of_refused {uri : String} {t : TypedLiteral} {e : RegistryError}
    (hregistered : (r.get? uri).isSome) (hother : t.uri ≠ uri) (hrefused : r.Refuses t e) :
    (r.accepts uri t).lines = r.diagnosis t ++ [.sourceRejected uri e] := by
  rw [← hrefused.lines_parse, lines, events_accepts, if_pos ⟨hregistered, hother⟩, hrefused,
    List.map_append]
  rfl

/-- Acceptance is silent unless it comes to a literal of another datatype that does not
construct. -/
theorem lines_accepts_of_silent {uri : String} {t : TypedLiteral}
    (hsilent : ¬ ((r.get? uri).isSome ∧ t.uri ≠ uri ∧ ¬ r.Constructs t)) :
    (r.accepts uri t).lines = [] := by
  rw [lines, events_accepts]
  by_cases hasked : (r.get? uri).isSome ∧ t.uri ≠ uri
  · have hconstructs : r.Constructs t :=
      Classical.not_not.mp fun hfails => hsilent ⟨hasked.1, hasked.2, hfails⟩
    have hlines := hconstructs.lines_parse
    obtain ⟨l, hparse⟩ := hconstructs
    rw [if_pos hasked, hparse, List.append_nil]
    exact hlines
  · rw [if_neg hasked]
    rfl

/-! ## Comparison -/

theorem lines_parsePair (r : Registry σ) (a b : TypedLiteral) :
    (r.parsePair a b).lines =
      (r.parse a.uri a.lexicalValue).lines ++
        match (r.parse a.uri a.lexicalValue).value with
        | .ok _ => (r.parse b.uri b.lexicalValue).lines
        | .error _ => [] := by
  rw [lines, events_parsePair, List.map_append]
  cases (r.parse a.uri a.lexicalValue).value <;> rfl

theorem lines_equal (r : Registry σ) (a b : TypedLiteral) :
    (r.equal a b).lines =
      (r.parsePair a b).lines ++
        match (r.parsePair a b).value with
        | .ok _ => []
        | .error e => [.comparisonFailed e] := by
  rw [lines, events_equal, List.map_append]
  cases (r.parsePair a b).value <;> rfl

theorem parsePair_ok_of_parse {a b : TypedLiteral} {left right : Literal}
    (hleft : (r.parse a.uri a.lexicalValue).value = .ok left)
    (hright : (r.parse b.uri b.lexicalValue).value = .ok right) :
    (r.parsePair a b).value = .ok (left, right) := by
  unfold parsePair
  simp only [value_bind, hleft, hright]
  rfl

/-- A pair fails with its first literal that does not construct, and only that is logged. -/
theorem FirstRefused.parsePair {a b t : TypedLiteral} {e : RegistryError}
    (hfirst : r.FirstRefused a b t e) :
    (r.parsePair a b).value = .error e ∧ (r.parsePair a b).lines = r.diagnosis t := by
  rw [lines_parsePair]
  unfold Registry.parsePair
  rw [value_bind]
  cases hfirst with
  | left hrefused =>
      rw [hrefused, hrefused.lines_parse]
      exact ⟨rfl, List.append_nil _⟩
  | right hconstructs hrefused =>
      rw [hconstructs.lines_parse, hrefused.lines_parse]
      obtain ⟨l, hparse⟩ := hconstructs
      rw [hparse]
      dsimp only
      rw [value_bind, hrefused]
      exact ⟨rfl, rfl⟩

theorem FirstRefused.lines_equal {a b t : TypedLiteral} {e : RegistryError}
    (hfirst : r.FirstRefused a b t e) :
    (r.equal a b).lines = r.diagnosis t ++ [.comparisonFailed e] := by
  obtain ⟨hvalue, hlines⟩ := hfirst.parsePair
  rw [Registry.lines_equal, hvalue, hlines]

theorem lines_equal_of_constructs {a b : TypedLiteral} (ha : r.Constructs a)
    (hb : r.Constructs b) : (r.equal a b).lines = [] := by
  rw [Registry.lines_equal, lines_parsePair, ha.lines_parse, hb.lines_parse]
  obtain ⟨left, hleft⟩ := ha
  obtain ⟨right, hright⟩ := hb
  rw [hleft, parsePair_ok_of_parse hleft hright]
  rfl

/-! ## Counting -/

/-- The line that reports a failure has a text of its own, so it stands in the log once. -/
theorem countP_diagnosis_append (r : Registry σ) (t : TypedLiteral) (last : LogLine)
    (hother : last.text ≠ "illegal lexical value") :
    (r.diagnosis t ++ [last]).countP (·.text = last.text) = 1 := by
  rw [List.countP_append, diagnosis]
  split <;> simp [LogLine.illegalValue, hother.symm]

theorem countP_comparisonFailed_eq_one_iff (r : Registry σ) (a b : TypedLiteral) :
    (r.equal a b).lines.countP (·.text = "literal comparison failed, treating as unequal") = 1 ↔
      ¬ r.Constructs a ∨ ¬ r.Constructs b := by
  rw [← Classical.not_and_iff_not_or_not]
  constructor
  · rintro hone ⟨ha, hb⟩
    simp [lines_equal_of_constructs ha hb] at hone
  · intro hfails
    obtain ⟨t, e, hfirst⟩ := (r.exists_firstRefused_iff a b).mpr hfails
    rw [hfirst.lines_equal]
    exact r.countP_diagnosis_append t (.comparisonFailed e) (by simp [LogLine.comparisonFailed])

theorem countP_sourceRejected_eq_one_iff (r : Registry σ) (uri : String) (t : TypedLiteral) :
    (r.accepts uri t).lines.countP (·.text = "source literal rejected") = 1 ↔
      (r.get? uri).isSome ∧ t.uri ≠ uri ∧ ¬ r.Constructs t := by
  constructor
  · intro hone
    refine Classical.not_not.mp fun hsilent => ?_
    simp [lines_accepts_of_silent hsilent] at hone
  · rintro ⟨hregistered, hother, hfails⟩
    obtain ⟨e, hrefused⟩ := (r.not_constructs_iff t).mp hfails
    rw [lines_accepts_of_refused hregistered hother hrefused]
    exact r.countP_diagnosis_append t (.sourceRejected uri e) (by simp [LogLine.sourceRejected])

/-! ## Genuine answers -/

/-- A comparison has come to no by asking. -/
structure AnsweredNo (r : Registry σ) (a b : TypedLiteral) : Prop where
  left_constructs : r.Constructs a
  right_constructs : r.Constructs b
  ne : a ≠ b
  /-- The datatype of the first literal has been asked, and the other one if the settings admit
  its direction. -/
  asked : ∃ d, r.get? a.uri = some d ∧ (d, .equality a b) ∈ (r.equal a b).consultations
  asked_back : r.settings.bidirectionalEquality →
    ∃ d, r.get? b.uri = some d ∧ (d, .equality b a) ∈ (r.equal a b).consultations
  said_no : ∀ d this other, (d, .equality this other) ∈ (r.equal a b).consultations →
    d.descriptor.equals this other = false

/-- Two literals that construct are unequal only if they differ and the rules say so. -/
theorem rules_of_no {a b : TypedLiteral} {left right : Literal}
    (hleft : (r.parse a.uri a.lexicalValue).value = .ok left)
    (hright : (r.parse b.uri b.lexicalValue).value = .ok right)
    (hno : (r.equal a b).value = false) :
    left.toTyped ≠ right.toTyped ∧
      left.datatype.descriptor.equals left.toTyped right.toTyped = false ∧
      (r.settings.bidirectionalEquality = true →
        right.datatype.descriptor.equals right.toTyped left.toTyped = false) := by
  have hvalue := r.value_equal a b
  rw [hno, hleft, hright] at hvalue
  simpa [and_assoc] using hvalue.symm

/-- A comparison of different literals that comes to no has asked in all directions there are. -/
theorem consultations_equal_of_no {a b : TypedLiteral} {left right : Literal}
    (hleft : (r.parse a.uri a.lexicalValue).value = .ok left)
    (hright : (r.parse b.uri b.lexicalValue).value = .ok right)
    (hne : left.toTyped ≠ right.toTyped)
    (hno : left.datatype.descriptor.equals left.toTyped right.toTyped = false) :
    (r.equal a b).consultations = [left.vetting, right.vetting, left.comparison right] ++
      if r.settings.bidirectionalEquality then [right.comparison left] else [] := by
  have hpair := parsePair_ok_of_parse hleft hright
  unfold equal
  rw [consultations_bind, consultations_of_parsePair_ok hpair, hpair]
  simp only [if_neg hne, consultations_bind, Literal.value_equals, hno]
  cases r.settings.bidirectionalEquality <;> rfl

theorem Filed.answeredNo_of_constructs (hfiled : r.Filed) {a b : TypedLiteral}
    (ha : r.Constructs a) (hb : r.Constructs b) (hno : (r.equal a b).value = false) :
    r.AnsweredNo a b := by
  have hconstructs := And.intro ha hb
  obtain ⟨left, hleft⟩ := ha
  obtain ⟨right, hright⟩ := hb
  obtain ⟨hne, hfirst, hsecond⟩ := rules_of_no hleft hright hno
  have hconsulted := consultations_equal_of_no hleft hright hne hfirst
  rw [hfiled.comparison_eq hleft hright, hfiled.comparison_eq hright hleft] at hconsulted
  rw [hfiled.toTyped_of_parse_ok hleft, hfiled.toTyped_of_parse_ok hright] at hne hfirst hsecond
  refine ⟨hconstructs.1, hconstructs.2, hne, ?_, ?_, ?_⟩
  · refine ⟨left.datatype, (get?_of_parse_ok hleft).1, ?_⟩
    simp [hconsulted]
  · intro hsettings
    refine ⟨right.datatype, (get?_of_parse_ok hright).1, ?_⟩
    simp [hconsulted, hsettings]
  · intro d this other hmem
    rw [hconsulted] at hmem
    -- Legality is asked about before, equality only in these two directions.
    rcases List.mem_append.mp hmem with hmem | hmem
    · obtain ⟨rfl, rfl, rfl⟩ : d = left.datatype ∧ this = a ∧ other = b := by
        simpa [Literal.vetting] using hmem
      exact hfirst
    · split at hmem
      next hsettings =>
        obtain ⟨rfl, rfl, rfl⟩ : d = right.datatype ∧ this = b ∧ other = a := by
          simpa using hmem
        exact hsecond hsettings
      next => contradiction

/-- A no without a line in the log is an answer. -/
theorem Filed.answeredNo_of_silent (hfiled : r.Filed) {a b : TypedLiteral}
    (hno : (r.equal a b).value = false) (hsilent : (r.equal a b).lines = []) :
    r.AnsweredNo a b := by
  by_cases hboth : r.Constructs a ∧ r.Constructs b
  · exact hfiled.answeredNo_of_constructs hboth.1 hboth.2 hno
  · obtain ⟨t, e, hfirst⟩ := (r.exists_firstRefused_iff a b).mpr hboth
    rw [hfirst.lines_equal] at hsilent
    exact absurd hsilent (List.append_ne_nil_of_right_ne_nil _ (List.cons_ne_nil _ _))

/-! ## Summary -/

/-- What the log says about the questions that a registry is asked about literals. -/
structure TellsFailures (r : Registry σ) : Prop where
  /-- Where the log shows an illegal lexical value there is a datatype that finds it illegal. -/
  illegal : ∀ t e d, r.Refuses t e → r.get? t.uri = some d →
    d.descriptor.isLegal t.lexicalValue = false
  parse : ∀ t, (r.parse t.uri t.lexicalValue).lines =
    match (r.parse t.uri t.lexicalValue).value with
    | .ok _ => []
    | .error _ => r.diagnosis t
  isValid : ∀ t, (r.isValid t.uri t.lexicalValue).lines =
    if (r.isValid t.uri t.lexicalValue).value then [] else r.diagnosis t
  canonicalise : ∀ t, (r.canonicalise t).lines =
    match (r.canonicalise t).value with
    | .ok _ => []
    | .error _ => r.diagnosis t
  equal_once_iff : ∀ a b,
    (r.equal a b).lines.countP (·.text = "literal comparison failed, treating as unequal") = 1 ↔
      ¬ r.Constructs a ∨ ¬ r.Constructs b
  /-- The line is the last one, and has the reason of the first literal that does not construct. -/
  equal_refused : ∀ a b t e, r.FirstRefused a b t e →
    (r.equal a b).lines = r.diagnosis t ++ [.comparisonFailed e]
  equal_silent : ∀ a b, r.Constructs a → r.Constructs b → (r.equal a b).lines = []
  accepts_once_iff : ∀ uri t,
    (r.accepts uri t).lines.countP (·.text = "source literal rejected") = 1 ↔
      (r.get? uri).isSome ∧ t.uri ≠ uri ∧ ¬ r.Constructs t
  accepts_refused : ∀ uri t e, (r.get? uri).isSome → t.uri ≠ uri → r.Refuses t e →
    (r.accepts uri t).lines = r.diagnosis t ++ [.sourceRejected uri e]
  accepts_silent : ∀ uri t, ¬ ((r.get? uri).isSome ∧ t.uri ≠ uri ∧ ¬ r.Constructs t) →
    (r.accepts uri t).lines = []
  answered_no : ∀ a b, (r.equal a b).value = false → (r.equal a b).lines = [] →
    r.AnsweredNo a b

theorem Filed.tellsFailures (hfiled : r.Filed) : r.TellsFailures where
  illegal _ _ _ hrefused hget := hrefused.illegal hget
  parse t := r.lines_parse t
  isValid t := by
    rw [lines_isValid, r.lines_parse, value_isValid]
    cases (r.parse t.uri t.lexicalValue).value <;> rfl
  canonicalise t := by
    rw [lines_canonicalise, r.lines_parse, value_canonicalise]
    cases (r.parse t.uri t.lexicalValue).value <;> rfl
  equal_once_iff := r.countP_comparisonFailed_eq_one_iff
  equal_refused _ _ _ _ hfirst := hfirst.lines_equal
  equal_silent _ _ ha hb := lines_equal_of_constructs ha hb
  accepts_once_iff := r.countP_sourceRejected_eq_one_iff
  accepts_refused _ _ _ hregistered hother hrefused :=
    lines_accepts_of_refused hregistered hother hrefused
  accepts_silent _ _ hsilent := lines_accepts_of_silent hsilent
  answered_no _ _ hno hsilent := hfiled.answeredNo_of_silent hno hsilent

end Lines

/-- In every registry that a run reaches, a no because of a literal that does not construct is
logged with its reason, and no other answer is logged. -/
theorem log_tells_failures (settings : Settings) (requests : List Request) :
    ((⟨∅, settings⟩ : Registry HashedStore).run requests).2.TellsFailures :=
  (filed_run settings requests).tellsFailures

end Registry

end Datatypes
