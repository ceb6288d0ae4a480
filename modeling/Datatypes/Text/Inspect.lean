import Datatypes.Text.Quoted

/-! # Inspection text

How values of structured types are shown for inspection: records with their
fields by name, alternatives with their contents in parentheses. A record may
keep fields to itself; its text then ends in two dots.
-/

namespace Datatypes.Text

/-- The fields of a record, each with the text of its value. -/
abbrev Fields := List (String × String)

/-- The text of the fields, in order. -/
def fields (entries : Fields) : String :=
  ", ".intercalate (entries.map fun (name, value) => name ++ ": " ++ value)

/-- A record that shows all of its fields. -/
def record (name : String) (entries : Fields) : String :=
  name ++ " \x7b " ++ fields entries ++ " \x7d"

/-- A record that keeps some of its fields to itself. -/
def openRecord (name : String) (entries : Fields) : String :=
  name ++ " \x7b " ++ fields entries ++ ", .. \x7d"

/-- An alternative with one value. -/
def variant (name content : String) : String :=
  name ++ "(" ++ content ++ ")"

/-- A value that may be absent, from the text of a present one. -/
def optional (value : Option String) : String :=
  match value with
  | some text => variant "Some" text
  | none => "None"

def truth (b : Bool) : String :=
  if b then "true" else "false"

end Datatypes.Text
