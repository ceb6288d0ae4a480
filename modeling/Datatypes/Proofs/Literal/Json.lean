import Datatypes.Literal.Json
import Datatypes.Literal.Reader
import Datatypes.Proofs.Json.Token

/-! # Typed literals survive JSON

A typed literal is read back from the JSON value that it is written to, and from the text
of that value, whatever characters occur in its URI and its lexical value.
-/

namespace Datatypes.TypedLiteral

open Json (Token)

theorem ofJson_toJson (t : TypedLiteral) : ofJson t.toJson = .ok t := by
  rfl

/-- The tokens of a typed literal in JSON. -/
def writtenTokens (t : TypedLiteral) : List Token :=
  [.openBrace, .string (.ok uriField), .colon, .string (.ok t.uri), .comma,
    .string (.ok lexicalValueField), .colon, .string (.ok t.lexicalValue), .closeBrace]

theorem tokens_text_toJson (t : TypedLiteral) :
    Json.tokens t.toJson.text.toList = t.writtenTokens := by
  unfold Json.text toJson
  rw [String.toList_ofList]
  simp only [Json.chars, Json.memberChars, List.append_assoc, List.cons_append]
  rw [Json.tokens_punctuation rfl, Json.tokens_stringText, Json.tokens_punctuation rfl,
    Json.tokens_stringText, Json.tokens_punctuation rfl, Json.tokens_stringText,
    Json.tokens_punctuation rfl, Json.tokens_stringText, Json.tokens_punctuation rfl]
  rw [Json.tokens]
  rfl

theorem ofText_text_toJson (t : TypedLiteral) : ofText t.toJson.text = .ok t := by
  unfold ofText
  rw [tokens_text_toJson]
  rfl

end Datatypes.TypedLiteral
