import Datatypes.Descriptor
import Datatypes.Identifier

/-! # Datatypes

A datatype is a descriptor bound to a URI. The URI is asked for once, when the
datatype is bound; what the author would answer later has no influence.
-/

namespace Datatypes

/-- A descriptor bound to a URI. -/
structure Datatype where
  uri : String
  descriptor : Descriptor

/-- The datatype of an offer, under the URI that the offer gives next. The answers after that
are not kept, so nothing that is done with the datatype later can depend on them. -/
def Offer.bind (offer : Offer) : Datatype :=
  ⟨offer.uri, offer.descriptor⟩

namespace Datatype

/-- The identifier of the datatype, derived from its URI. -/
def id (d : Datatype) : Identifier :=
  Identifier.ofUri d.uri

/-- A datatype as it is shown for inspection. -/
def inspect (d : Datatype) : String :=
  Text.openRecord "DatatypeConstructor" [("id", d.id.text), ("uri", Text.quoted d.uri)]

end Datatype

end Datatypes
