import Datatypes.Json.Number

/-! # JSON values

The members of an object are a list of keys with values. Where a key occurs more
than once its first occurrence counts, and where members are visited they are
visited in the code point order of their keys.
-/

namespace Datatypes

inductive Json where
  | null
  | bool (b : Bool)
  | number (n : Json.Number)
  | string (s : String)
  | array (items : List Json)
  | object (members : List (String × Json))

namespace Json

/-- Puts a member into a list of members in code point order, in place of one with the
same key. -/
def put (key : String) (value : Json) : List (String × Json) → List (String × Json)
  | [] => [(key, value)]
  | member :: rest =>
      if key < member.1 then (key, value) :: member :: rest
      else if key = member.1 then (key, value) :: rest
      else member :: put key value rest

/-- The members that count, in code point order. -/
def sortMembers (members : List (String × Json)) : List (String × Json) :=
  members.foldr (fun member sorted => put member.1 member.2 sorted) []

def member? (key : String) : Json → Option Json
  | object members => members.lookup key
  | _ => none

/-- The value at the end of a path of keys. -/
def path? (keys : List String) (value : Json) : Option Json :=
  keys.foldlM (fun value key => value.member? key) value

end Json

end Datatypes
