import Datatypes.Error

/-! # Why a registry refused

The causes of failure inside a registry. They are those of `DatatypeError` in
other words, and the two types convert into each other.
-/

namespace Datatypes

/-- A cause of failure inside a registry. -/
inductive RegistryError where
  | missingArgument
  | invalidShape (field : String)
  | duplicateUri (uri : String)
  | illegalLexicalValue (lexicalValue uri : String)
  | unknownDatatype (uri : String)
  | internal (message : String)
deriving DecidableEq

namespace RegistryError

def message : RegistryError → String
  | missingArgument => "Missing datatype descriptor"
  | invalidShape field => "Invalid datatype descriptor: field '" ++ field ++ "'"
  | duplicateUri uri => "Datatype already exists: " ++ uri
  | illegalLexicalValue lexicalValue uri =>
      "Illegal lexical value '" ++ lexicalValue ++ "' for datatype " ++ uri
  | unknownDatatype uri => "Datatype not found: " ++ uri
  | internal message => "Internal error: " ++ message

instance : ToString RegistryError where
  toString := message

/-- The cause as users of datatypes see it. -/
def toDatatypeError : RegistryError → DatatypeError
  | missingArgument => .missingArgument
  | invalidShape field => .invalidShape field
  | duplicateUri uri => .duplicateUri uri
  | illegalLexicalValue lexicalValue uri => .illegalLexicalValue lexicalValue uri
  | unknownDatatype uri => .unknownDatatype uri
  | internal message => .internal message

/-- The cause that users of datatypes see, as one inside a registry. -/
def ofDatatypeError : DatatypeError → RegistryError
  | .missingArgument => missingArgument
  | .invalidShape field => invalidShape field
  | .duplicateUri uri => duplicateUri uri
  | .illegalLexicalValue lexicalValue uri => illegalLexicalValue lexicalValue uri
  | .unknownDatatype uri => unknownDatatype uri
  | .internal message => internal message

end RegistryError

end Datatypes
