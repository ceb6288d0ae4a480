import Datatypes.Json.Token
import Datatypes.Literal.Typed

/-! # Reading typed literals

A typed literal is read from a JSON text without building the value in between: an
object with a URI and a lexical value, both strings, or an array of the two. Other
members of the object are skipped, however deep they go, but neither of the two may
occur twice. The text is read from left to right, and the first fault is the answer.
-/

namespace Datatypes

open Json (Fault Token)

inductive Nesting where
  | array
  | object
deriving DecidableEq

/-- Where a skipped value stands. In each case the nesting around it is known. -/
inductive Skipping where
  | opened
  | value
  | key
  | colon
  | complete
deriving DecidableEq

/-- What has been skipped so far. -/
inductive Skipped where
  /-- The value is not complete. Of the nestings around, the innermost comes first. -/
  | within (inner : Nesting) (outer : List Nesting) (state : Skipping)
  | whole

namespace Skipped

/-- A value is complete in its nesting, if it has one. -/
def completed : List Nesting → Skipped
  | [] => whole
  | inner :: outer => within inner outer .complete

/-- Takes in the first token of a value. -/
def start (around : List Nesting) : Token → Except Fault Skipped
  | .openBrace => .ok (within .object around .opened)
  | .openBracket => .ok (within .array around .opened)
  | .null | .bool _ | .number _ | .string _ => .ok (completed around)
  | .brokenWord fault | .brokenNumber _ fault | .brokenString _ fault => .error fault
  | _ => .error .malformed

def startMember (outer : List Nesting) : Token → Except Fault Skipped
  | .string _ => .ok (within .object outer .colon)
  | .brokenString _ fault => .error fault
  | _ => .error .malformed

/-- Takes in one token of a nested value. -/
def step (inner : Nesting) (outer : List Nesting) : Skipping → Token → Except Fault Skipped
  | .opened, token =>
      match inner, token with
      | .array, .closeBracket | .object, .closeBrace => .ok (completed outer)
      | .array, token => start (.array :: outer) token
      | .object, token => startMember outer token
  | .value, token => start (inner :: outer) token
  | .key, token => startMember outer token
  | .colon, .colon => .ok (within inner outer .value)
  | .complete, token =>
      match inner, token with
      | .array, .comma => .ok (within .array outer .value)
      | .object, .comma => .ok (within .object outer .key)
      | .array, .closeBracket | .object, .closeBrace => .ok (completed outer)
      | _, _ => .error .malformed
  | .colon, _ => .error .malformed

end Skipped

namespace TypedLiteral

/-- The members of an object as far as they have been read. -/
structure Fields where
  uri? : Option String := none
  lexicalValue? : Option String := none

inductive Field where
  | uri
  | lexicalValue
  | other
deriving DecidableEq

namespace Field

def ofKey (key : String) : Field :=
  if key = uriField then uri
  else if key = lexicalValueField then lexicalValue
  else other

end Field

namespace Fields

/-- Whether a field has been read that must not occur again. -/
def has (fields : Fields) : Field → Bool
  | .uri => fields.uri?.isSome
  | .lexicalValue => fields.lexicalValue?.isSome
  | .other => false

def set (fields : Fields) (value : String) : Field → Fields
  | .uri => { fields with uri? := some value }
  | .lexicalValue => { fields with lexicalValue? := some value }
  | .other => fields

/-- The typed literal, if no field is missing. -/
def literal (fields : Fields) : Except Fault TypedLiteral :=
  match fields.uri?, fields.lexicalValue? with
  | some uri, some lexicalValue => .ok ⟨uri, lexicalValue⟩
  | _, _ => .error .mismatched

end Fields

/-- What a reader of typed literals has taken in. -/
inductive Reading where
  | start
  | firstKey
  /-- A comma stands behind a member. -/
  | nextKey (fields : Fields)
  | colon (fields : Fields) (field : Field)
  | value (fields : Fields) (field : Field)
  /-- The value of another member is being skipped. -/
  | skipping (fields : Fields) (inner : Nesting) (outer : List Nesting) (state : Skipping)
  | afterMember (fields : Fields)
  | firstItem
  | afterFirst (uri : String)
  /-- A comma stands behind the first item. -/
  | secondItem (uri : String)
  | afterSecond (literal : TypedLiteral)
  | done (literal : TypedLiteral)

namespace Reading

/-- The string that a token is. Values of other kinds do not match, as soon as they are
known to be values. -/
def stringToken : Token → Except Fault String
  | .string content => content
  | .null | .bool _ | .openBrace | .openBracket => .error .mismatched
  | .number numeral => .error (if numeral.number?.isSome then .mismatched else .malformed)
  | .brokenWord fault | .brokenNumber fault _ | .brokenString fault _ => .error fault
  | _ => .error .malformed

def startMember (fields : Fields) : Token → Except Fault Reading
  | .string content => do
      let field := Field.ofKey (← content)
      if fields.has field then throw .mismatched
      return colon fields field
  | .brokenString fault _ => .error fault
  | _ => .error .malformed

/-- Goes on behind a skipped value, or inside it. -/
def ofSkipped (fields : Fields) : Skipped → Reading
  | .within inner outer state => skipping fields inner outer state
  | .whole => afterMember fields

def step : Reading → Token → Except Fault Reading
  | start, .openBrace => .ok firstKey
  | start, .openBracket => .ok firstItem
  | start, token => do
      let _ ← stringToken token
      throw .mismatched
  | firstKey, .closeBrace => done <$> ({} : Fields).literal
  | firstKey, token => startMember {} token
  | nextKey fields, token => startMember fields token
  | colon fields field, .colon => .ok (value fields field)
  | value fields .other, token => ofSkipped fields <$> Skipped.start [] token
  | value fields field, token => do
      let value ← stringToken token
      return afterMember (fields.set value field)
  | skipping fields inner outer state, token =>
      ofSkipped fields <$> Skipped.step inner outer state token
  | afterMember fields, .comma => .ok (nextKey fields)
  | afterMember fields, .closeBrace => done <$> fields.literal
  | firstItem, .closeBracket => .error .mismatched
  | firstItem, token => afterFirst <$> stringToken token
  | afterFirst _, .closeBracket => .error .mismatched
  | afterFirst uri, .comma => .ok (secondItem uri)
  | secondItem uri, token => do
      let lexicalValue ← stringToken token
      return afterSecond ⟨uri, lexicalValue⟩
  | afterSecond literal, .closeBracket => .ok (done literal)
  | colon _ _, _ | afterMember _, _ | afterFirst _, _ | afterSecond _, _ | done _, _ =>
      .error .malformed

end Reading

/-- The typed literal that a JSON text stands for. -/
def ofText (text : String) : Except Fault TypedLiteral := do
  match ← (Json.tokens text.toList).foldlM Reading.step .start with
  | .done literal => return literal
  | _ => throw .truncated

end TypedLiteral

end Datatypes
