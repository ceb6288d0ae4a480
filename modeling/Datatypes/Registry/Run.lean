import Datatypes.Registry.Client

/-! # Runs

A run puts requests to a registry, or to a client, one after the other. Each
request gets its answer and its part of the journal, and leaves behind the
registry that the next one is put to.
-/

namespace Datatypes

/-- What a registry can be asked to do. -/
inductive Request where
  | register (offer : Offer)
  | define (definition? : Option Definition)
  | registerBatch (offers : List Offer)
  | get (uri : String)
  | parse (uri lexicalValue : String)
  | isValid (uri lexicalValue : String)
  | accepts (uri : String) (literal : TypedLiteral)
  | equal (a b : TypedLiteral)
  | canonicalise (literal : TypedLiteral)
  | uris
  | contains (uri : String)
  | size
  | isEmpty

/-- What a request is answered with; failures are worded in `ε`. -/
inductive Answer (ε : Type) where
  | registration (result : Except ε Datatype)
  | batch (results : List BatchResult)
  | lookup (datatype? : Option Datatype)
  | literal (result : Except ε Literal)
  | typed (result : Except ε TypedLiteral)
  | truth (b : Bool)
  | uris (all : List String)
  | size (count : Nat)

/-- An answer with its failure, if it is one, in other words. -/
def Answer.mapError {ε ε' : Type} (f : ε → ε') : Answer ε → Answer ε'
  | registration result => .registration (result.mapError f)
  | batch results => .batch results
  | lookup datatype? => .lookup datatype?
  | literal result => .literal (result.mapError f)
  | typed result => .typed (result.mapError f)
  | truth b => .truth b
  | uris all => .uris all
  | size count => .size count

variable {σ : Type} [Store σ]

namespace Registry

/-- Puts one request to a registry. -/
def step (r : Registry σ) : Request → Recorded (Answer RegistryError × Registry σ)
  | .register offer => (fun attempt => (.registration attempt.1, attempt.2)) <$> r.register offer
  | .define definition? =>
      (fun attempt => (.registration attempt.1, attempt.2)) <$> r.define definition?
  | .registerBatch offers =>
      (fun batch => (.batch batch.1, batch.2)) <$> r.registerBatch offers
  | .get uri => pure (.lookup (r.get? uri), r)
  | .parse uri lexicalValue => (fun result => (.literal result, r)) <$> r.parse uri lexicalValue
  | .isValid uri lexicalValue => (fun b => (.truth b, r)) <$> r.isValid uri lexicalValue
  | .accepts uri literal => (fun b => (.truth b, r)) <$> r.accepts uri literal
  | .equal a b => (fun same => (.truth same, r)) <$> r.equal a b
  | .canonicalise literal => (fun result => (.typed result, r)) <$> r.canonicalise literal
  | .uris => pure (.uris r.uris, r)
  | .contains uri => pure (.truth (r.contains uri), r)
  | .size => pure (.size r.size, r)
  | .isEmpty => pure (.truth r.isEmpty, r)

/-- Puts requests to a registry one after the other. -/
def run (r : Registry σ) : List Request → List (Recorded (Answer RegistryError)) × Registry σ
  | [] => ([], r)
  | request :: rest =>
      let first := r.step request
      let later := first.value.2.run rest
      (⟨first.value.1, first.journal⟩ :: later.1, later.2)

end Registry

namespace Client

/-- Puts one request to a client. Users ask for membership, size and emptiness
through the registry itself. -/
def step (c : Client σ) : Request → Recorded (Answer DatatypeError × Client σ)
  | .register offer => (fun attempt => (.registration attempt.1, attempt.2)) <$> c.register offer
  | .define definition? =>
      (fun attempt => (.registration attempt.1, attempt.2)) <$> c.define definition?
  | .registerBatch offers =>
      (fun batch => (.batch batch.1, batch.2)) <$> c.registerBatch offers
  | .get uri => pure (.lookup (c.get? uri), c)
  | .parse uri lexicalValue => (fun result => (.literal result, c)) <$> c.parse uri lexicalValue
  | .isValid uri lexicalValue => (fun b => (.truth b, c)) <$> c.isValid uri lexicalValue
  | .accepts uri literal => (fun b => (.truth b, c)) <$> c.accepts uri literal
  | .equal a b => (fun same => (.truth same, c)) <$> c.equal a b
  | .canonicalise literal => (fun result => (.typed result, c)) <$> c.canonicalise literal
  | .uris => pure (.uris c.uris, c)
  | .contains uri => pure (.truth (c.registry.contains uri), c)
  | .size => pure (.size c.registry.size, c)
  | .isEmpty => pure (.truth c.registry.isEmpty, c)

/-- Puts requests to a client one after the other. -/
def run (c : Client σ) : List Request → List (Recorded (Answer DatatypeError)) × Client σ
  | [] => ([], c)
  | request :: rest =>
      let first := c.step request
      let later := first.value.2.run rest
      (⟨first.value.1, first.journal⟩ :: later.1, later.2)

end Client

end Datatypes
