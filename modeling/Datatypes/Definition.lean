import Datatypes.Datatype
import Datatypes.Error

/-! # Definitions

A definition collects the parts of a datatype one by one, each of them optional.
It is complete if it has a URI that is not empty, a legality rule and an equality
rule; the first of these that is missing, in this order, is the error.
-/

namespace Datatypes

/-- The parts of a datatype as far as they have been given. -/
structure Definition where
  uri? : Option String := none
  isLegal? : Option (String → Bool) := none
  equals? : Option (TypedLiteral → TypedLiteral → Bool) := none
  importFrom? : Option (TypedLiteral → Option String) := none
  exportTo? : Option (TypedLiteral → String → Option String) := none
  /-- The name under which consultations are reported; without one they are not. -/
  label? : Option String := none

/-- The outcome of a check that all necessary parts have been given. -/
structure CompleteDefinition where
  uri : String
  descriptor : Descriptor
  uri_ne_empty : uri ≠ ""

namespace CompleteDefinition

/-- The offer of a complete definition. Its URI does not change. -/
def offer (d : CompleteDefinition) : Offer :=
  Offer.fixed d.uri d.descriptor

/-- A complete definition as it is shown for inspection. -/
def inspect (d : CompleteDefinition) : String :=
  Text.openRecord "DefinedDatatype" [("uri", Text.quoted d.uri)]

end CompleteDefinition

namespace Definition

/-- The field reported for a URI that is missing or empty. -/
def uriField : String := "uri"

def isLegalField : String := "isLegal"

def equalsField : String := "equals"

/-- The URI, if one was given and is not empty. -/
def usableUri? (d : Definition) : Option { uri : String // uri ≠ "" } :=
  match d.uri? with
  | some uri => if h : uri ≠ "" then some ⟨uri, h⟩ else none
  | none => none

/-- Checks the parts in the order URI, legality, equality. Every value of a defined
datatype is its own canonical form. -/
def complete (d : Definition) : Except DatatypeError CompleteDefinition :=
  match d.usableUri?, d.isLegal?, d.equals? with
  | none, _, _ => .error (.invalidShape uriField)
  | some _, none, _ => .error (.invalidShape isLegalField)
  | some _, some _, none => .error (.invalidShape equalsField)
  | some uri, some isLegal, some equals =>
      .ok
        { uri := uri.val
          descriptor :=
            { isLegal, equals
              importFrom? := d.importFrom?
              exportTo? := d.exportTo?
              label? := d.label? }
          uri_ne_empty := uri.property }

/-- A definition as it is shown for inspection: rules appear as given or not. -/
def inspect (d : Definition) : String :=
  Text.record "DatatypeDefinition"
    [("uri", Text.optional (d.uri?.map Text.quoted)),
     ("is_legal", Text.truth d.isLegal?.isSome),
     ("equals", Text.truth d.equals?.isSome),
     ("import", Text.truth d.importFrom?.isSome),
     ("export", Text.truth d.exportTo?.isSome)]

end Definition

end Datatypes
