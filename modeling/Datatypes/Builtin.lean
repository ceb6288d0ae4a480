import Datatypes.Descriptor

/-! # Built-in datatypes

The datatype of strings: every lexical value is legal and is its own canonical
form, and two strings are equal if they are identical.
-/

namespace Datatypes.Builtin

/-- The namespace of the built-in datatypes. -/
def xsdNamespace : String := "http://www.w3.org/2001/XMLSchema#"

/-- The URI of the datatype of strings. -/
def xsdStringUri : String := xsdNamespace ++ "string"

/-- The rules of the datatype of strings. -/
def xsdStringDescriptor : Descriptor where
  isLegal _ := true
  equals this other := other.uri == xsdStringUri && other.lexicalValue == this.lexicalValue

/-- The datatype of strings, as it is offered to a registry. -/
def xsdString : Offer :=
  Offer.fixed xsdStringUri xsdStringDescriptor

end Datatypes.Builtin
