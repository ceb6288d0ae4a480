import Datatypes.Literal.Typed

/-! # Descriptors

A descriptor is what its author says about a datatype: which lexical values are
legal, when two literals are equal, and, if the author cares to say, the canonical
form of a value and conversions from and to other datatypes. An offer adds the
URI that the datatype is to have. The author may answer differently each time the
URI is asked for, so an offer holds a sequence of answers.
-/

namespace Datatypes

/-- The rules of a datatype. Literals appear in them as typed literals: a rule
sees the URI and the lexical value and nothing else. -/
structure Descriptor where
  /-- Whether a lexical value belongs to the datatype. -/
  isLegal : String → Bool
  /-- Whether a literal of this datatype, the first, has the value of another. -/
  equals : TypedLiteral → TypedLiteral → Bool
  /-- The canonical form of a lexical value; absent if every value is its own. -/
  canonicalForm? : Option (String → String) := none
  /-- A lexical value of this datatype for a literal of another; absent if there are none. -/
  importFrom? : Option (TypedLiteral → Option String) := none
  /-- A lexical value of the datatype with the given URI for a literal of this one; absent
  if there are none. -/
  exportTo? : Option (TypedLiteral → String → Option String) := none
  /-- The name under which consultations are reported; without one they are not. -/
  label? : Option String := none

/-- The canonical form of a lexical value. -/
def Descriptor.canonicalForm (d : Descriptor) (lexicalValue : String) : String :=
  match d.canonicalForm? with
  | some form => form lexicalValue
  | none => lexicalValue

/-- A descriptor with the answers that it gives, one after the other, when it is
asked for its URI. -/
structure Offer where
  uriAnswer : Nat → String
  descriptor : Descriptor

namespace Offer

/-- An offer that always gives the same URI. -/
def fixed (uri : String) (descriptor : Descriptor) : Offer :=
  ⟨fun _ => uri, descriptor⟩

/-- An offer that gives the URIs of a list in turn, and the last one from then on. -/
def ofList (first : String) (rest : List String) (descriptor : Descriptor) : Offer :=
  ⟨fun n => (first :: rest).getD n ((first :: rest).getLastD first), descriptor⟩

/-- The answer to the next request for the URI. -/
def uri (offer : Offer) : String :=
  offer.uriAnswer 0

/-- The offer once the URI has been asked for. -/
def next (offer : Offer) : Offer :=
  { offer with uriAnswer := fun n => offer.uriAnswer (n + 1) }

end Offer

end Datatypes
