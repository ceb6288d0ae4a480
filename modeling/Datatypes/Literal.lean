import Datatypes.Journal

/-! # Literals

A literal is a lexical value together with the datatype that accepted it. Literals
come from `Datatype.construct`, which consults the legality rule, and from
`Literal.canonicalise`, which falls back to the literal itself when the canonical
form is not legal. Consulting a rule that the descriptor does not give leaves no
trace in the journal.
-/

namespace Datatypes

/-- A lexical value that a datatype has accepted. -/
structure Literal where
  datatype : Datatype
  lexicalValue : String

namespace Literal

def uri (l : Literal) : String :=
  l.datatype.uri

/-- The literal without its datatype. -/
def toTyped (l : Literal) : TypedLiteral :=
  ⟨l.uri, l.lexicalValue⟩

instance : Coe Literal TypedLiteral where
  coe := toTyped

/-- A literal as it is shown to users: the lexical value between quotes, but not
escaped, and the URI. -/
def text (l : Literal) : String :=
  "\"" ++ l.lexicalValue ++ "\"^^<" ++ l.uri ++ ">"

instance : ToString Literal where
  toString := text

/-- A literal as it is shown for inspection. -/
def inspect (l : Literal) : String :=
  Text.record "Literal"
    [("datatype", Text.quoted l.uri), ("lexical_value", Text.quoted l.lexicalValue)]

end Literal

namespace Datatype

open Recorded

/-- Asks the datatype whether a lexical value is legal. -/
def isLegal (d : Datatype) (lexicalValue : String) : Recorded Bool := do
  consult d (.legality lexicalValue)
  return d.descriptor.isLegal lexicalValue

/-- Asks the datatype for the canonical form of a lexical value. -/
def canonicalForm (d : Datatype) (lexicalValue : String) : Recorded String :=
  match d.descriptor.canonicalForm? with
  | some form => do
      consult d (.canonicalForm lexicalValue)
      return form lexicalValue
  | none => return lexicalValue

/-- Asks the datatype for a lexical value of its own for another literal. -/
def importFrom (d : Datatype) (other : TypedLiteral) : Recorded (Option String) :=
  match d.descriptor.importFrom? with
  | some convert => do
      consult d (.importFrom other)
      return convert other
  | none => return none

/-- The literal with the lexical value, if the datatype accepts it. -/
def construct (d : Datatype) (lexicalValue : String) :
    Recorded (Except DatatypeError Literal) := do
  if ← d.isLegal lexicalValue then
    return .ok ⟨d, lexicalValue⟩
  else
    return .error (.illegalLexicalValue lexicalValue d.uri)

end Datatype

namespace Literal

open Recorded

/-- Asks the literal's datatype whether another literal has the same value. The
answer need not be the one that the other's datatype would give. -/
def equals (l : Literal) (other : TypedLiteral) : Recorded Bool := do
  consult l.datatype (.equality l.toTyped other)
  return l.datatype.descriptor.equals l.toTyped other

/-- Asks the literal's datatype for a lexical value in the datatype with the URI. -/
def exportTo (l : Literal) (target : String) : Recorded (Option String) :=
  match l.datatype.descriptor.exportTo? with
  | some convert => do
      consult l.datatype (.exportTo l.toTyped target)
      return convert l.toTyped target
  | none => return none

/-- The literal in canonical form, or the literal itself if the form is not legal.
A form equal to the lexical value is not checked again. -/
def canonicalise (l : Literal) : Recorded Literal := do
  let form ← l.datatype.canonicalForm l.lexicalValue
  if form = l.lexicalValue then
    return l
  else
    match ← l.datatype.construct form with
    | .ok canonical => return canonical
    | .error _ => return l

end Literal

end Datatypes
