import Datatypes.Text.Inspect

/-! # Why a datatype or a literal was refused

The causes that users of datatypes see, with their wording. A registry words the
same causes for its own log; see `Datatypes.Registry.Error`.
-/

namespace Datatypes

/-- A cause of failure, as users of datatypes see it. -/
inductive DatatypeError where
  /-- No definition was given. -/
  | missingArgument
  /-- A field of the definition is missing or unusable. -/
  | invalidShape (field : String)
  | duplicateUri (uri : String)
  | illegalLexicalValue (lexicalValue uri : String)
  | unknownDatatype (uri : String)
  /-- Storage failed. -/
  | internal (message : String)
deriving DecidableEq

namespace DatatypeError

def message : DatatypeError → String
  | missingArgument => "The construction of a Datatype requires a parameter"
  | invalidShape field =>
      "The Datatype construction parameter must contain a valid '" ++ field ++ "' property"
  | duplicateUri uri => "A Datatype with uri " ++ uri ++ " already exists"
  | illegalLexicalValue lexicalValue uri =>
      "lexical value " ++ lexicalValue ++ " is not legal for datatype " ++ uri
  | unknownDatatype uri => "No Datatype registered with uri " ++ uri
  | internal message => "Internal error: " ++ message

instance : ToString DatatypeError where
  toString := message

/-- A cause as it is shown for inspection. -/
def inspect : DatatypeError → String
  | missingArgument => "MissingArgument"
  | invalidShape field => Text.variant "InvalidShape" (Text.quoted field)
  | duplicateUri uri => Text.variant "DuplicateUri" (Text.quoted uri)
  | illegalLexicalValue lexicalValue uri =>
      Text.record "IllegalLexicalValue"
        [("lexical_value", Text.quoted lexicalValue), ("uri", Text.quoted uri)]
  | unknownDatatype uri => Text.variant "UnknownDatatype" (Text.quoted uri)
  | internal message => Text.variant "Internal" (Text.quoted message)

def isMissingArgument : DatatypeError → Bool
  | missingArgument => true
  | _ => false

def isInvalidShape : DatatypeError → Bool
  | invalidShape _ => true
  | _ => false

def isDuplicateUri : DatatypeError → Bool
  | duplicateUri _ => true
  | _ => false

def isIllegalLexicalValue : DatatypeError → Bool
  | illegalLexicalValue _ _ => true
  | _ => false

def isUnknownDatatype : DatatypeError → Bool
  | unknownDatatype _ => true
  | _ => false

/-- The field that a shape error names. -/
def shapeField? : DatatypeError → Option String
  | invalidShape field => some field
  | _ => none

end DatatypeError

end Datatypes
