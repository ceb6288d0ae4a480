import Datatypes.Literal
import Datatypes.Proofs.Journal

/-! # What the rules of a datatype answer

An operation on literals gives the answers of rules and notes the consultations.
Here are the answers alone, as functions of the descriptor, and the fact that the
only datatype consulted is the one asked.
-/

namespace Datatypes

namespace Datatype

/-- The lexical value that the import rule gives, if there is one. -/
def imported? (d : Datatype) (other : TypedLiteral) : Option String :=
  d.descriptor.importFrom?.bind fun convert => convert other

/-- The lexical value that the export rule gives, if there is one. -/
def exported? (d : Datatype) (this : TypedLiteral) (target : String) : Option String :=
  d.descriptor.exportTo?.bind fun convert => convert this target

/-- Whether the import of a literal of another datatype, or else its export, gives
a lexical value that is legal here. -/
def takesOver (target source : Datatype) (lexicalValue : String) : Bool :=
  (target.imported? ⟨source.uri, lexicalValue⟩).any target.descriptor.isLegal ||
    (source.exported? ⟨source.uri, lexicalValue⟩ target.uri).any target.descriptor.isLegal

/-- The canonical form of a lexical value if that is legal, and the value otherwise. -/
def canonicalValue (d : Datatype) (lexicalValue : String) : String :=
  if d.descriptor.isLegal (d.descriptor.canonicalForm lexicalValue) then
    d.descriptor.canonicalForm lexicalValue
  else
    lexicalValue

/-- A canonical form that is not legal is not taken, so the canonical value of a legal
value is legal. -/
theorem isLegal_canonicalValue {d : Datatype} {lexicalValue : String}
    (hlegal : d.descriptor.isLegal lexicalValue) :
    d.descriptor.isLegal (d.canonicalValue lexicalValue) := by
  unfold canonicalValue
  split
  · assumption
  · exact hlegal

@[simp] theorem value_isLegal (d : Datatype) (lexicalValue : String) :
    (d.isLegal lexicalValue).value = d.descriptor.isLegal lexicalValue := rfl

@[simp] theorem value_canonicalForm (d : Datatype) (lexicalValue : String) :
    (d.canonicalForm lexicalValue).value = d.descriptor.canonicalForm lexicalValue := by
  unfold canonicalForm Descriptor.canonicalForm
  cases d.descriptor.canonicalForm? <;> rfl

@[simp] theorem value_importFrom (d : Datatype) (other : TypedLiteral) :
    (d.importFrom other).value = d.imported? other := by
  unfold importFrom imported?
  cases d.descriptor.importFrom? <;> rfl

@[simp] theorem value_construct (d : Datatype) (lexicalValue : String) :
    (d.construct lexicalValue).value =
      if d.descriptor.isLegal lexicalValue then .ok ⟨d, lexicalValue⟩
      else .error (.illegalLexicalValue lexicalValue d.uri) := by
  unfold construct
  rw [Recorded.value_bind, value_isLegal]
  split <;> rfl

theorem consultations_construct (d : Datatype) (lexicalValue : String) :
    (d.construct lexicalValue).consultations = [(d, .legality lexicalValue)] := by
  unfold construct
  rw [Recorded.consultations_bind]
  split <;> rfl

theorem events_isLegal (d : Datatype) (lexicalValue : String) :
    (d.isLegal lexicalValue).events = [] := rfl

theorem events_canonicalForm (d : Datatype) (lexicalValue : String) :
    (d.canonicalForm lexicalValue).events = [] := by
  unfold canonicalForm
  cases d.descriptor.canonicalForm? <;> rfl

theorem events_importFrom (d : Datatype) (other : TypedLiteral) :
    (d.importFrom other).events = [] := by
  unfold importFrom
  cases d.descriptor.importFrom? <;> rfl

theorem events_construct (d : Datatype) (lexicalValue : String) :
    (d.construct lexicalValue).events = [] := by
  unfold construct
  rw [Recorded.events_bind]
  split <;> rfl

variable {allowed : Datatype → Prop} {d : Datatype}

theorem onlyConsults_isLegal (hallowed : allowed d) (lexicalValue : String) :
    (d.isLegal lexicalValue).OnlyConsults allowed :=
  (Recorded.OnlyConsults.consult hallowed _).bind (.pure _)

theorem onlyConsults_canonicalForm (hallowed : allowed d) (lexicalValue : String) :
    (d.canonicalForm lexicalValue).OnlyConsults allowed := by
  unfold canonicalForm
  cases d.descriptor.canonicalForm? with
  | none => exact .pure _
  | some form => exact (Recorded.OnlyConsults.consult hallowed _).bind (.pure _)

theorem onlyConsults_importFrom (hallowed : allowed d) (other : TypedLiteral) :
    (d.importFrom other).OnlyConsults allowed := by
  unfold importFrom
  cases d.descriptor.importFrom? with
  | none => exact .pure _
  | some convert => exact (Recorded.OnlyConsults.consult hallowed _).bind (.pure _)

theorem onlyConsults_construct (hallowed : allowed d) (lexicalValue : String) :
    (d.construct lexicalValue).OnlyConsults allowed := by
  refine (onlyConsults_isLegal hallowed lexicalValue).bind ?_
  split <;> exact .pure _

end Datatype

namespace Literal

@[simp] theorem value_equals (l : Literal) (other : TypedLiteral) :
    (l.equals other).value = l.datatype.descriptor.equals l.toTyped other := rfl

@[simp] theorem value_exportTo (l : Literal) (target : String) :
    (l.exportTo target).value = l.datatype.exported? l.toTyped target := by
  unfold exportTo Datatype.exported?
  cases l.datatype.descriptor.exportTo? <;> rfl

/-- Whether or not the canonical form is checked, the literal keeps its datatype and
has the canonical value. -/
@[simp] theorem value_canonicalise (l : Literal) :
    l.canonicalise.value = ⟨l.datatype, l.datatype.canonicalValue l.lexicalValue⟩ := by
  unfold canonicalise Datatype.canonicalValue
  rw [Recorded.value_bind, Datatype.value_canonicalForm]
  by_cases hsame : l.datatype.descriptor.canonicalForm l.lexicalValue = l.lexicalValue
  · rw [if_pos hsame, hsame, ite_self]
    rfl
  · rw [if_neg hsame, Recorded.value_bind, Datatype.value_construct]
    by_cases hlegal : l.datatype.descriptor.isLegal
        (l.datatype.descriptor.canonicalForm l.lexicalValue)
    · rw [if_pos hlegal, if_pos hlegal]
      rfl
    · rw [if_neg hlegal, if_neg hlegal]
      rfl

theorem events_equals (l : Literal) (other : TypedLiteral) : (l.equals other).events = [] := rfl

theorem events_exportTo (l : Literal) (target : String) : (l.exportTo target).events = [] := by
  unfold exportTo
  cases l.datatype.descriptor.exportTo? <;> rfl

theorem events_canonicalise (l : Literal) : l.canonicalise.events = [] := by
  unfold canonicalise
  rw [Recorded.events_bind, Datatype.events_canonicalForm, List.nil_append]
  split
  · rfl
  · rw [Recorded.events_bind, Datatype.events_construct, List.nil_append]
    split <;> rfl

variable {allowed : Datatype → Prop} {l : Literal}

theorem onlyConsults_equals (hallowed : allowed l.datatype) (other : TypedLiteral) :
    (l.equals other).OnlyConsults allowed :=
  (Recorded.OnlyConsults.consult hallowed _).bind (.pure _)

theorem onlyConsults_exportTo (hallowed : allowed l.datatype) (target : String) :
    (l.exportTo target).OnlyConsults allowed := by
  unfold exportTo
  cases l.datatype.descriptor.exportTo? with
  | none => exact .pure _
  | some convert => exact (Recorded.OnlyConsults.consult hallowed _).bind (.pure _)

theorem onlyConsults_canonicalise (hallowed : allowed l.datatype) :
    l.canonicalise.OnlyConsults allowed := by
  refine (Datatype.onlyConsults_canonicalForm hallowed l.lexicalValue).bind ?_
  split
  · exact .pure _
  · refine (Datatype.onlyConsults_construct hallowed _).bind ?_
    split <;> exact .pure _

end Literal

end Datatypes
