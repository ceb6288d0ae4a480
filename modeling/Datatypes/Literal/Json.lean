import Datatypes.Json.Value
import Datatypes.Literal.Typed

/-! # Typed literals in JSON

A typed literal is written as an object with its URI and its lexical value. Such an
object is read back, with further members ignored, and so is an array of the two.
The first value that is not a string is the fault, in the code point order of the
keys; then a member that is missing, the URI before the lexical value.
-/

namespace Datatypes

namespace TypedLiteral

/-- Why a JSON value is not a typed literal. -/
inductive Mismatch where
  | notString (found : Json)
  | notLiteral (found : Json)
  | missingField (name : String)
  | tooShort (length : Nat)
  | tooLong (length : Nat)

/-- The JSON value of a typed literal. -/
def toJson (t : TypedLiteral) : Json :=
  .object [(uriField, .string t.uri), (lexicalValueField, .string t.lexicalValue)]

def asString : Json → Except Mismatch String
  | .string s => .ok s
  | found => .error (.notString found)

/-- The string under a key, if the key occurs. -/
def stringMember? (key : String) (value : Json) : Except Mismatch (Option String) :=
  match value.member? key with
  | some found => some <$> asString found
  | none => .ok none

/-- The string that a member must have. -/
def require (name : String) : Option String → Except Mismatch String
  | some s => .ok s
  | none => .error (.missingField name)

/-- The typed literal that an object stands for. The key of the lexical value comes before
that of the URI in code point order. -/
def ofObject (value : Json) : Except Mismatch TypedLiteral := do
  let lexicalValue? ← stringMember? lexicalValueField value
  let uri? ← stringMember? uriField value
  let uri ← require uriField uri?
  let lexicalValue ← require lexicalValueField lexicalValue?
  return ⟨uri, lexicalValue⟩

/-- The typed literal that an array stands for. -/
def ofArray : List Json → Except Mismatch TypedLiteral
  | [] => .error (.tooShort 0)
  | [first] => do
      let _ ← asString first
      throw (.tooShort 1)
  | first :: second :: rest => do
      let uri ← asString first
      let lexicalValue ← asString second
      if rest.isEmpty then return ⟨uri, lexicalValue⟩
      else throw (.tooLong (rest.length + 2))

/-- The typed literal that a JSON value stands for. -/
def ofJson : Json → Except Mismatch TypedLiteral
  | .object members => ofObject (.object members)
  | .array items => ofArray items
  | found => .error (.notLiteral found)

namespace Mismatch

/-- What a value is, in a message. -/
def describe : Json → String
  | .null => "null"
  | .bool b => "boolean `" ++ Text.truth b ++ "`"
  | .number (.integer value) => "integer `" ++ toString value ++ "`"
  | .number (.float negative magnitude) =>
      "floating point `" ++ Json.Number.scientificText negative magnitude ++ "`"
  | .string s => "string " ++ Text.quoted s
  | .array _ => "sequence"
  | .object _ => "map"

def message : Mismatch → String
  | notString found => "invalid type: " ++ describe found ++ ", expected a string"
  | notLiteral found => "invalid type: " ++ describe found ++ ", expected struct TypedLiteral"
  | missingField name => "missing field `" ++ name ++ "`"
  | tooShort length =>
      "invalid length " ++ toString length ++ ", expected struct TypedLiteral with 2 elements"
  | tooLong length =>
      "invalid length " ++ toString length ++ ", expected fewer elements in array"

end Mismatch

end TypedLiteral

end Datatypes
