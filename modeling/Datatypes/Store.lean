import Datatypes.Datatype
import Datatypes.Registry.Error

/-! # Stores

A store keeps datatypes under their URIs. Entries are added and never removed or
replaced. A store may also fail for reasons of its own.
-/

namespace Datatypes

/-- What a registry needs of its storage. -/
class Store (σ : Type) where
  /-- Adds a datatype under its URI. If the URI is taken or storage fails, the answer
  says so and the entries stay as they were. -/
  insert : σ → Datatype → Except RegistryError Unit × σ
  /-- The datatype stored under a URI. -/
  get? : σ → String → Option Datatype
  /-- Whether there is a datatype under a URI. -/
  contains : σ → String → Bool := fun store uri => (get? store uri).isSome
  /-- The URIs of all datatypes, in code point order. -/
  uris : σ → List String
  /-- The number of datatypes. -/
  size : σ → Nat
  /-- Whether there are no datatypes. -/
  isEmpty : σ → Bool := fun store => size store == 0

end Datatypes
