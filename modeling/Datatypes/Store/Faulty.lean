import Datatypes.Store

/-! # Stores that fail now and then

A store in front of another one, which it hands everything on to, except that
some attempts to insert fail. Which attempts do is given in advance, by their
number; attempts that the inner store refuses are counted too.
-/

namespace Datatypes

/-- A store whose attempts to insert may fail. -/
structure FaultyStore (σ : Type) where
  inner : σ
  /-- The message with which an attempt fails, if it does. Attempts count from 0. -/
  fault? : Nat → Option String
  /-- The number of attempts so far. -/
  attempts : Nat := 0

namespace FaultyStore

/-- The attempts from number `count` on fail with the same message. -/
def failAfter (count : Nat) (message : String) (attempt : Nat) : Option String :=
  if count ≤ attempt then some message else none

variable {σ : Type} [Store σ]

/-- Hands the datatype on, or fails and stores nothing. -/
def insert (store : FaultyStore σ) (datatype : Datatype) :
    Except RegistryError Unit × FaultyStore σ :=
  let attempts := store.attempts + 1
  match store.fault? store.attempts with
  | some message => (.error (.internal message), { store with attempts })
  | none =>
      let (answer, inner) := Store.insert store.inner datatype
      (answer, { store with inner, attempts })

instance : Store (FaultyStore σ) where
  insert := insert
  get? store := Store.get? store.inner
  contains store := Store.contains store.inner
  uris store := Store.uris store.inner
  size store := Store.size store.inner
  isEmpty store := Store.isEmpty store.inner

end FaultyStore

end Datatypes
