import Datatypes.Text.Inspect

/-! # Typed literals

A typed literal names a datatype by its URI and carries a lexical value. Nothing
is checked: the datatype may be unknown and the value illegal for it.
-/

namespace Datatypes

/-- A datatype URI with a lexical value. -/
structure TypedLiteral where
  uri : String
  lexicalValue : String
deriving DecidableEq, Hashable

namespace TypedLiteral

/-- A typed literal as it is shown for inspection. -/
def inspect (t : TypedLiteral) : String :=
  Text.record "TypedLiteral"
    [("datatype_uri", Text.quoted t.uri), ("lexical_value", Text.quoted t.lexicalValue)]

/-- The name of the URI in a structured form. -/
def uriField : String := "uri"

/-- The name of the lexical value in a structured form. -/
def lexicalValueField : String := "lexicalValue"

end TypedLiteral

end Datatypes
