import Datatypes.Registry.Registration

/-! # Clients

A client is a registry as its users see it: the same operations, with the causes
of failure in the users' words.
-/

namespace Datatypes

/-- A registry as its users see it. -/
structure Client (σ : Type) where
  registry : Registry σ

namespace Client

variable {σ : Type} [Store σ]

/-- The outcome of a registration in the users' words. -/
def ofRegistration (attempt : Except RegistryError Datatype × Registry σ) :
    Except DatatypeError Datatype × Client σ :=
  (attempt.1.mapError RegistryError.toDatatypeError, ⟨attempt.2⟩)

def get? (c : Client σ) (uri : String) : Option Datatype :=
  c.registry.get? uri

def uris (c : Client σ) : List String :=
  c.registry.uris

def register (c : Client σ) (offer : Offer) :
    Recorded (Except DatatypeError Datatype × Client σ) :=
  ofRegistration <$> c.registry.register offer

def define (c : Client σ) (definition? : Option Definition) :
    Recorded (Except DatatypeError Datatype × Client σ) :=
  ofRegistration <$> c.registry.define definition?

/-- The results of a batch are in the users' words already. -/
def registerBatch (c : Client σ) (offers : List Offer) :
    Recorded (List BatchResult × Client σ) := do
  let batch ← c.registry.registerBatch offers
  return (batch.1, ⟨batch.2⟩)

def parse (c : Client σ) (uri lexicalValue : String) :
    Recorded (Except DatatypeError Literal) :=
  Except.mapError RegistryError.toDatatypeError <$> c.registry.parse uri lexicalValue

def isValid (c : Client σ) (uri lexicalValue : String) : Recorded Bool :=
  c.registry.isValid uri lexicalValue

def accepts (c : Client σ) (uri : String) (literal : TypedLiteral) : Recorded Bool :=
  c.registry.accepts uri literal

def equal (c : Client σ) (a b : TypedLiteral) : Recorded Bool :=
  c.registry.equal a b

def canonicalise (c : Client σ) (literal : TypedLiteral) :
    Recorded (Except DatatypeError TypedLiteral) :=
  Except.mapError RegistryError.toDatatypeError <$> c.registry.canonicalise literal

end Client

end Datatypes
