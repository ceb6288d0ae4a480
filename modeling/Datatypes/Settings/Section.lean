import Datatypes.Json.Merge
import Datatypes.Settings
import Datatypes.Text.Quoted

/-! # Settings from a configuration

A configuration is a list of JSON layers. The settings stand in a section of the
merged tree: either an object with the two keys, or an array of the two values in
order. What is missing has its default, and so has everything if the section cannot
be looked up, be it that it is missing or that the layers cannot be merged. Any other
content is an error, and the first fault in the order of the keys or items is reported.
-/

namespace Datatypes

/-- What is wrong with a section, and where. -/
inductive SectionError where
  /-- The section is neither an object nor an array. -/
  | notSection (found : Json)
  | unknownField (key : String)
  /-- The value at a key or an index is not a truth value. -/
  | notBool (place : String) (found : Json)

namespace SectionError

/-- What a value is, in a message. -/
def describe : Json → String
  | .null => "unit"
  | .bool b => "bool " ++ Text.truth b
  | .number (.integer (.ofNat n)) => "unsigned int `" ++ toString n ++ "`"
  | .number (.integer value) => "signed int `" ++ toString value ++ "`"
  | .number (.float negative magnitude) =>
      "float `" ++ Json.Number.positionalText negative magnitude ++ "`"
  | .string s => "string " ++ Text.quoted s
  | .array _ => "sequence"
  | .object _ => "map"

/-- The cause alone. -/
def reason : SectionError → String
  | notSection found =>
      "invalid type: found " ++ describe found ++ ", expected struct DatatypeRegistryConfig"
  | unknownField key =>
      "unknown field: found `" ++ key ++ "`, expected ``" ++ Settings.bidirectionalEqualityKey
        ++ "` or `" ++ Settings.preregisterBuiltinKey ++ "``"
  | notBool _ found => "invalid type: found " ++ describe found ++ ", expected a boolean"

/-- The keys that lead to the section. -/
def sectionPath : List String :=
  ["modules", Settings.moduleName, "config"]

/-- The path of the section, with the key or the index at fault put in front. -/
def path : SectionError → String
  | notSection _ => ".".intercalate ("default" :: sectionPath)
  | unknownField key => ".".intercalate ("default" :: key :: sectionPath)
  | notBool place _ => ".".intercalate ("default" :: place :: sectionPath)

/-- The full wording, with the path, quoted, and the name of what was read. -/
def message (e : SectionError) : String :=
  "invalid configuration for module '" ++ Settings.moduleName ++ "': " ++ e.reason
    ++ " for key " ++ Text.quoted e.path ++ " in input"

end SectionError

namespace Settings

def readBool (place : String) : Json → Except SectionError Bool
  | .bool b => .ok b
  | found => .error (.notBool place found)

def setMember (s : Settings) (key : String) (value : Json) : Except SectionError Settings :=
  if key = bidirectionalEqualityKey then do
    let b ← readBool key value
    return { s with bidirectionalEquality := b }
  else if key = preregisterBuiltinKey then do
    let b ← readBool key value
    return { s with preregisterBuiltin := b }
  else
    throw (.unknownField key)

/-- The settings in an array: the first two items count, as far as they are there. -/
def ofItems : List Json → Except SectionError Settings
  | [] => .ok {}
  | [first] => do
      let bidirectionalEquality ← readBool "0" first
      return { bidirectionalEquality }
  | first :: second :: _ => do
      let bidirectionalEquality ← readBool "0" first
      let preregisterBuiltin ← readBool "1" second
      return { bidirectionalEquality, preregisterBuiltin }

/-- The settings in a section. The members of an object are visited in the code point
order of their keys. -/
def ofSection : Json → Except SectionError Settings
  | .object members =>
      (Json.sortMembers members).foldlM (fun s member => s.setMember member.1 member.2) {}
  | .array items => ofItems items
  | found => .error (.notSection found)

/-- The settings in the layers of a configuration. The section is looked up to see whether it
is there, and looked up again to be read. The first lookup is not asked why it failed, so that
layers that cannot be merged count as layers without a section. -/
def ofLayers (layers : List Json) : Except SectionError Settings :=
  if hfound : Json.layersContain layers SectionError.sectionPath then
    ofSection ((Json.lookupLayers? layers SectionError.sectionPath).get hfound)
  else
    .ok {}

end Settings

end Datatypes
