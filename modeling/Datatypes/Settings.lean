import Datatypes.Text.Inspect

/-! # Settings of a registry -/

namespace Datatypes

/-- What can be configured about a registry. -/
structure Settings where
  /-- Two literals are also equal if the second one's datatype says so. -/
  bidirectionalEquality : Bool := true
  /-- The datatype of strings is registered at the start. -/
  preregisterBuiltin : Bool := false
deriving DecidableEq

namespace Settings

/-- The name of the section of a configuration that holds the settings. -/
def moduleName : String := "datatype_registry"

def bidirectionalEqualityKey : String := "bidirectional_equality"

def preregisterBuiltinKey : String := "preregister_builtin"

/-- Settings as they are shown for inspection. -/
def inspect (s : Settings) : String :=
  Text.record "DatatypeRegistryConfig"
    [(bidirectionalEqualityKey, Text.truth s.bidirectionalEquality),
     (preregisterBuiltinKey, Text.truth s.preregisterBuiltin)]

end Settings

end Datatypes
