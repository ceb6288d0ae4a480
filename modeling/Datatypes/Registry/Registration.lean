import Datatypes.Registry.Basic

/-! # Registration

A datatype is registered from an offer, from a definition, or in a batch of
offers. An offer with an empty URI is refused before it is bound, and a datatype
whose URI is taken is refused by the store. Every attempt logs exactly one event.

The URI of an offer is asked for more than once: for the check that it is not
empty, then for the binding, and in a batch once before, to report which URI was
attempted. The answer to the first question is checked, the answer to the second
is bound, and the two need not agree.
-/

namespace Datatypes

open Recorded

namespace Registry

variable {σ : Type} [Store σ]

/-- Hands a datatype to the store and logs what the store answers. -/
def insert (r : Registry σ) (datatype : Datatype) :
    Recorded (Except RegistryError Datatype × Registry σ) :=
  match Store.insert r.store datatype with
  | (.ok (), store) => do
      log (.registered datatype)
      return (.ok datatype, { r with store })
  | (.error e, store) => do
      log (.registrationRejected datatype.uri e)
      return (.error e, { r with store })

/-- Registers the datatype of an offer. -/
def register (r : Registry σ) (offer : Offer) :
    Recorded (Except RegistryError Datatype × Registry σ) :=
  if offer.uri = "" then do
    log .emptyUri
    return (.error (.invalidShape Definition.uriField), r)
  else
    r.insert offer.next.bind

/-- Registers the datatype of a definition, once it has been found complete. -/
def define (r : Registry σ) (definition? : Option Definition) :
    Recorded (Except RegistryError Datatype × Registry σ) :=
  match definition? with
  | none => do
      log .noDefinition
      return (.error .missingArgument, r)
  | some definition =>
      match definition.complete with
      | .error e => do
          log (.incompleteDefinition definition.uri? e)
          return (.error (.ofDatatypeError e), r)
      | .ok complete => r.register complete.offer

end Registry

/-- What became of one offer of a batch. -/
inductive BatchResult where
  | registered (datatype : Datatype)
  /-- The offer was refused. The URI is the one that was attempted, if it was not empty. -/
  | failed (uri? : Option String) (error : DatatypeError)

namespace BatchResult

def isRegistered : BatchResult → Bool
  | registered _ => true
  | failed _ _ => false

def datatype? : BatchResult → Option Datatype
  | registered datatype => some datatype
  | failed _ _ => none

def error? : BatchResult → Option DatatypeError
  | registered _ => none
  | failed _ error => some error

/-- A result as it is shown for inspection. -/
def inspect : BatchResult → String
  | registered datatype => Text.variant "Ok" datatype.inspect
  | failed uri? error =>
      Text.record "Err"
        [("uri", Text.optional (uri?.map Text.quoted)), ("error", error.inspect)]

end BatchResult

/-- How many offers of a batch were registered and refused. -/
structure BatchSummary where
  succeeded : Nat
  failed : Nat
deriving DecidableEq

namespace BatchSummary

def ofResults (results : List BatchResult) : BatchSummary :=
  let succeeded := results.countP BatchResult.isRegistered
  ⟨succeeded, results.length - succeeded⟩

def total (s : BatchSummary) : Nat :=
  s.succeeded + s.failed

def allSucceeded (s : BatchSummary) : Bool :=
  s.failed == 0

end BatchSummary

/-- The URI that an offer gives next, unless it is empty. -/
def Offer.attempted? (offer : Offer) : Option String :=
  if offer.uri = "" then none else some offer.uri

namespace Registry

variable {σ : Type} [Store σ]

/-- Registers one offer of a batch. -/
def registerItem (r : Registry σ) (offer : Offer) : Recorded (BatchResult × Registry σ) := do
  let attempt ← r.register offer.next
  match attempt.1 with
  | .ok datatype => return (.registered datatype, attempt.2)
  | .error e => return (.failed offer.attempted? e.toDatatypeError, attempt.2)

/-- Registers the offers of a batch one after the other. A refusal does not stop the
offers behind it. -/
def registerBatch (r : Registry σ) : List Offer → Recorded (List BatchResult × Registry σ)
  | [] => return ([], r)
  | offer :: rest => do
      let item ← r.registerItem offer
      let batch ← item.2.registerBatch rest
      return (item.1 :: batch.1, batch.2)

end Registry

end Datatypes
