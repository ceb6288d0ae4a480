import Datatypes.Digest.Sha1

/-! # Identifiers derived from names

A name-based UUID of version 5: the SHA-1 digest of a namespace and a name, cut
to sixteen bytes, with the version and the variant written over six of its bits.
The identifier of a datatype is that of its URI in the namespace for URLs, so it
depends on the URI and on nothing else.
-/

namespace Datatypes

/-- A UUID, as its sixteen bytes. -/
structure Identifier where
  bytes : List UInt8
  length_bytes : bytes.length = 16
deriving DecidableEq

namespace Identifier

/-- The namespace for URLs, `6ba7b811-9dad-11d1-80b4-00c04fd430c8`. -/
def urlNamespace : Identifier where
  bytes := [0x6b, 0xa7, 0xb8, 0x11, 0x9d, 0xad, 0x11, 0xd1,
    0x80, 0xb4, 0x00, 0xc0, 0x4f, 0xd4, 0x30, 0xc8]
  length_bytes := rfl

/-- Writes the version number 5 over the high half of byte 6. -/
def stampVersion (bytes : List UInt8) : List UInt8 :=
  bytes.modify 6 fun byte => (byte &&& 0x0f) ||| 0x50

/-- Writes the variant over the two high bits of byte 8. -/
def stampVariant (bytes : List UInt8) : List UInt8 :=
  bytes.modify 8 fun byte => (byte &&& 0x3f) ||| 0x80

/-- The identifier of a name, taken as its UTF-8 bytes, in a namespace. -/
def ofName (space : Identifier) (name : String) : Identifier where
  bytes := stampVariant (stampVersion
    ((Sha1.digest (space.bytes ++ name.toUTF8.data.toList)).take 16))
  length_bytes := by simp [stampVariant, stampVersion, Sha1.length_digest]

/-- The identifier of a datatype URI. -/
def ofUri (uri : String) : Identifier :=
  ofName urlNamespace uri

/-- The two hexadecimal digits of a byte, in lower case. -/
def hexByte (byte : UInt8) : List Char :=
  [Nat.digitChar (byte.toNat / 16), Nat.digitChar (byte.toNat % 16)]

/-- The text of an identifier: groups of 4, 2, 2, 2 and 6 bytes between hyphens. -/
def text (id : Identifier) : String :=
  let group (start count : Nat) :=
    String.ofList (((id.bytes.drop start).take count).flatMap hexByte)
  "-".intercalate [group 0 4, group 4 2, group 6 2, group 8 2, group 10 6]

instance : ToString Identifier where
  toString := text

end Identifier

end Datatypes
