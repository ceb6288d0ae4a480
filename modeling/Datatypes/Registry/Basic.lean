import Datatypes.Definition
import Datatypes.Literal
import Datatypes.Store

/-! # Registries

A registry answers questions about literals with the datatypes that its store
holds. A typed literal counts for something only if it constructs: its datatype
must be registered and find the lexical value legal. Only then are other rules
consulted.
-/

namespace Datatypes

/-- A store of datatypes with the settings that its answers depend on. -/
structure Registry (σ : Type) where
  store : σ
  settings : Settings

namespace Registry

open Recorded

variable {σ : Type} [Store σ]

/-- The datatype registered under a URI. -/
def get? (r : Registry σ) (uri : String) : Option Datatype :=
  Store.get? r.store uri

def contains (r : Registry σ) (uri : String) : Bool :=
  Store.contains r.store uri

/-- The URIs of all datatypes, in code point order. -/
def uris (r : Registry σ) : List String :=
  Store.uris r.store

def size (r : Registry σ) : Nat :=
  Store.size r.store

def isEmpty (r : Registry σ) : Bool :=
  Store.isEmpty r.store

/-- The literal with the lexical value, of the datatype registered under the URI. A
value that a registered datatype rejects is logged; an unknown URI is not. -/
def parse (r : Registry σ) (uri lexicalValue : String) :
    Recorded (Except RegistryError Literal) :=
  match r.get? uri with
  | none => return .error (.unknownDatatype uri)
  | some datatype => do
      match ← datatype.construct lexicalValue with
      | .ok literal => return .ok literal
      | .error e =>
          log (.illegalLexicalValue uri lexicalValue)
          return .error (.ofDatatypeError e)

/-- Whether a literal with the lexical value constructs. -/
def isValid (r : Registry σ) (uri lexicalValue : String) : Recorded Bool := do
  match ← r.parse uri lexicalValue with
  | .ok _ => return true
  | .error _ => return false

end Registry

/-- Whether a conversion gave a lexical value and the datatype finds it legal. -/
def Datatype.isLegalConversion (d : Datatype) : Option String → Recorded Bool
  | some lexicalValue => d.isLegal lexicalValue
  | none => return false

namespace Registry

open Recorded

variable {σ : Type} [Store σ]

/-- Whether a typed literal is a value of the datatype registered under the URI. A
literal of that datatype must be legal for it. One of another datatype must
construct, and then either the import into the one or else the export from the
other must give a lexical value that is legal there. -/
def accepts (r : Registry σ) (uri : String) (literal : TypedLiteral) : Recorded Bool :=
  match r.get? uri with
  | none => return false
  | some target =>
      if literal.uri = uri then
        target.isLegal literal.lexicalValue
      else do
        match ← r.parse literal.uri literal.lexicalValue with
        | .error e =>
            log (.sourceRejected uri e)
            return false
        | .ok source =>
            let imported ← target.importFrom source.toTyped
            if ← target.isLegalConversion imported then
              return true
            else
              let exported ← source.exportTo uri
              target.isLegalConversion exported

/-- The literals of two typed literals. The second is looked at only if the first
constructs. -/
def parsePair (r : Registry σ) (a b : TypedLiteral) :
    Recorded (Except RegistryError (Literal × Literal)) := do
  match ← r.parse a.uri a.lexicalValue with
  | .error e => return .error e
  | .ok left =>
      match ← r.parse b.uri b.lexicalValue with
      | .error e => return .error e
      | .ok right => return .ok (left, right)

/-- Whether two typed literals denote the same value. Both must construct. Identical
literals are equal without further questions; otherwise the datatype of the first
decides, and, if the settings say so, that of the second is asked as well. -/
def equal (r : Registry σ) (a b : TypedLiteral) : Recorded Bool := do
  match ← r.parsePair a b with
  | .error e =>
      log (.comparisonFailed e)
      return false
  | .ok (left, right) =>
      if left.toTyped = right.toTyped then
        return true
      else if ← left.equals right.toTyped then
        return true
      else if r.settings.bidirectionalEquality then
        right.equals left.toTyped
      else
        return false

/-- A typed literal in the canonical form of its datatype. -/
def canonicalise (r : Registry σ) (literal : TypedLiteral) :
    Recorded (Except RegistryError TypedLiteral) := do
  match ← r.parse literal.uri literal.lexicalValue with
  | .error e => return .error e
  | .ok parsed =>
      let canonical ← parsed.canonicalise
      return .ok canonical.toTyped

end Registry

end Datatypes
