import Datatypes.Json.Value

/-! # Merging JSON values

A value is laid over another one. Two objects are merged key by key; otherwise the
upper value replaces the lower one. Layers are merged one over the other before any
value is looked up in them.
-/

namespace Datatypes.Json

mutual

/-- The value `upper` laid over `lower`. -/
def merge (lower upper : Json) : Json :=
  match upper with
  | object members =>
      match lower with
      | object old => object (mergeMembers old members)
      | _ => object members
  | _ => upper
termination_by structural upper

/-- The members of an object laid over those of another. -/
def mergeMembers (old : List (String × Json)) : List (String × Json) → List (String × Json)
  | [] => sortMembers old
  | (key, value) :: rest =>
      put key
        (match old.lookup key with
          | some below => merge below value
          | none => value)
        (mergeMembers old rest)

end

def isObject : Json → Bool
  | object _ => true
  | _ => false

/-- All layers of a list, each laid over those before it. There is no outcome if one of
them is not an object. -/
def mergeLayers? (layers : List Json) : Option Json :=
  if layers.all isObject then some (layers.foldl merge (object [])) else none

/-- The value that a path of keys leads to in the merged layers. The lookup fails where there
is no value, and for any path if the layers cannot be merged. -/
def lookupLayers? (layers : List Json) (keys : List String) : Option Json :=
  (mergeLayers? layers).bind (path? keys)

/-- Whether a path of keys leads to a value in the merged layers. Why a lookup fails makes no
difference. -/
def layersContain (layers : List Json) (keys : List String) : Bool :=
  (lookupLayers? layers keys).isSome

end Datatypes.Json
