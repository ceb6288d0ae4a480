import Datatypes.Json.Token
import Datatypes.Json.Value

/-! # Reading JSON values

A reader takes in one token at a time. Between tokens it knows the arrays and the
objects that are still open, innermost first, and what may come next. Where a key
occurs more than once in an object its last value counts.
-/

namespace Datatypes.Json

/-- An array or an object that is still open around a value; what it holds so far is in
reverse order. -/
inductive Enclosing where
  | array (items : List Json)
  | object (members : List (String × Json)) (key : String)

/-- What a reader has taken in. -/
inductive Reading where
  | value (around : List Enclosing)
  | firstItem (around : List Enclosing)
  | afterItem (items : List Json) (around : List Enclosing)
  | firstKey (around : List Enclosing)
  /-- A comma stands behind a member. -/
  | nextKey (members : List (String × Json)) (around : List Enclosing)
  | colon (members : List (String × Json)) (key : String) (around : List Enclosing)
  | afterMember (members : List (String × Json)) (around : List Enclosing)
  | done (value : Json)

namespace Reading

/-- Puts a complete value where it belongs. -/
def complete (value : Json) : List Enclosing → Reading
  | [] => done value
  | .array items :: around => afterItem (value :: items) around
  | .object members key :: around => afterMember ((key, value) :: members) around

/-- Takes in the first token of a value. -/
def startValue (around : List Enclosing) : Token → Except Fault Reading
  | .openBrace => .ok (firstKey around)
  | .openBracket => .ok (firstItem around)
  | .null => .ok (complete .null around)
  | .bool b => .ok (complete (.bool b) around)
  | .number numeral =>
      match numeral.number? with
      | some n => .ok (complete (.number n) around)
      | none => .error .malformed
  | .string content => content.map fun s => complete (.string s) around
  | .brokenWord fault | .brokenNumber fault _ | .brokenString fault _ => .error fault
  | _ => .error .malformed

def startMember (members : List (String × Json)) (around : List Enclosing) :
    Token → Except Fault Reading
  | .string content => content.map fun key => colon members key around
  | .brokenString fault _ => .error fault
  | _ => .error .malformed

def step : Reading → Token → Except Fault Reading
  | value around, token => startValue around token
  | firstItem around, .closeBracket => .ok (complete (.array []) around)
  | firstItem around, token => startValue (.array [] :: around) token
  | afterItem items around, .comma => .ok (value (.array items :: around))
  | afterItem items around, .closeBracket => .ok (complete (.array items.reverse) around)
  | firstKey around, .closeBrace => .ok (complete (.object []) around)
  | firstKey around, token => startMember [] around token
  | nextKey members around, token => startMember members around token
  | colon members key around, .colon => .ok (value (.object members key :: around))
  | afterMember members around, .comma => .ok (nextKey members around)
  | afterMember members around, .closeBrace =>
      .ok (complete (.object (sortMembers members)) around)
  | afterItem _ _, _ | colon _ _ _, _ | afterMember _ _, _ | done _, _ => .error .malformed

end Reading

/-- The value that a text stands for. -/
def ofText (text : String) : Except Fault Json := do
  match ← (tokens text.toList).foldlM Reading.step (.value []) with
  | .done value => return value
  | _ => throw .truncated

end Datatypes.Json
