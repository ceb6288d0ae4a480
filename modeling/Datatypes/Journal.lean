import Datatypes.Datatype
import Datatypes.Registry.Error
import Datatypes.Settings

/-! # The journal

Rules are consulted and events are logged in an order that users can observe. An
operation therefore gives its result together with a journal: the consultations
and the events of the operation, from first to last.
-/

namespace Datatypes

/-- What a datatype is asked. -/
inductive Question where
  | legality (lexicalValue : String)
  | equality (this other : TypedLiteral)
  | canonicalForm (lexicalValue : String)
  | importFrom (other : TypedLiteral)
  | exportTo (this : TypedLiteral) (target : String)
deriving DecidableEq

/-- How much an event matters. -/
inductive Level where
  | debug
  | info
  | warn
deriving DecidableEq

def Level.name : Level → String
  | debug => "DEBUG"
  | info => "INFO"
  | warn => "WARN"

/-- What is worth a line in the log. -/
inductive Event where
  | initializing
  | settingsLoaded (settings : Settings)
  /-- The registry is ready and holds a number of datatypes. -/
  | initialized (size : Nat)
  | registered (datatype : Datatype)
  /-- Storage refused a datatype with the URI. -/
  | registrationRejected (uri : String) (error : RegistryError)
  | emptyUri
  | noDefinition
  | incompleteDefinition (uri? : Option String) (error : DatatypeError)
  | illegalLexicalValue (uri lexicalValue : String)
  /-- A literal offered to a datatype does not construct for its own. -/
  | sourceRejected (uri : String) (error : RegistryError)
  /-- One of two literals to compare does not construct. -/
  | comparisonFailed (error : RegistryError)

namespace Event

/-- How much an event matters. -/
def level : Event → Level
  | initializing | initialized _ => .info
  | registrationRejected _ _ | emptyUri | noDefinition | incompleteDefinition _ _ => .warn
  | settingsLoaded _ | registered _ | illegalLexicalValue _ _ | sourceRejected _ _
  | comparisonFailed _ => .debug

/-- The text of an event, which does not depend on its fields except where the settings
are spelt out. -/
def message : Event → String
  | initializing => "Initializing datatype_registry module"
  | settingsLoaded settings =>
      "Loaded datatype_registry config: bidirectional_equality="
        ++ Text.truth settings.bidirectionalEquality
        ++ ", preregister_builtin=" ++ Text.truth settings.preregisterBuiltin
  | initialized _ => "Datatype registry module initialized"
  | registered _ => "registered datatype"
  | registrationRejected _ _ | incompleteDefinition _ _ => "datatype registration rejected"
  | emptyUri => "datatype registration rejected: empty uri"
  | noDefinition => "datatype registration rejected: no descriptor"
  | illegalLexicalValue _ _ => "illegal lexical value"
  | sourceRejected _ _ => "source literal rejected"
  | comparisonFailed _ => "literal comparison failed, treating as unequal"

/-- The fields of an event, in order. The URI of an incomplete definition may be
absent and is quoted; all other texts are given as they are. -/
def fields : Event → Text.Fields
  | initializing | settingsLoaded _ | emptyUri | noDefinition => []
  | initialized size => [("datatypes", toString size)]
  | registered datatype => [("uri", datatype.uri), ("datatype_id", datatype.id.text)]
  | registrationRejected uri error => [("uri", uri), ("error", error.message)]
  | incompleteDefinition uri? error =>
      [("uri", Text.optional (uri?.map Text.quoted)), ("error", error.message)]
  | illegalLexicalValue uri lexicalValue => [("uri", uri), ("lexical_value", lexicalValue)]
  | sourceRejected uri error => [("uri", uri), ("error", error.message)]
  | comparisonFailed error => [("error", error.message)]

end Event

inductive Entry where
  | consulted (datatype : Datatype) (question : Question)
  | logged (event : Event)

/-- A result with the journal of the operation that gave it. -/
structure Recorded (α : Type) where
  value : α
  journal : List Entry

namespace Recorded

instance : Monad Recorded where
  pure value := ⟨value, []⟩
  bind first rest :=
    let second := rest first.value
    ⟨second.value, first.journal ++ second.journal⟩

def consult (datatype : Datatype) (question : Question) : Recorded Unit :=
  ⟨(), [.consulted datatype question]⟩

def log (event : Event) : Recorded Unit :=
  ⟨(), [.logged event]⟩

/-- The consultations of a journal, in order. -/
def consultations {α : Type} (result : Recorded α) : List (Datatype × Question) :=
  result.journal.filterMap fun
    | .consulted datatype question => some (datatype, question)
    | .logged _ => none

/-- The events of a journal, in order. -/
def events {α : Type} (result : Recorded α) : List Event :=
  result.journal.filterMap fun
    | .consulted _ _ => none
    | .logged event => some event

section Laws

variable {α β : Type}

@[simp] theorem value_pure (a : α) : (pure a : Recorded α).value = a := rfl

@[simp] theorem journal_pure (a : α) : (pure a : Recorded α).journal = [] := rfl

@[simp] theorem value_bind (first : Recorded α) (rest : α → Recorded β) :
    (first >>= rest).value = (rest first.value).value := rfl

@[simp] theorem journal_bind (first : Recorded α) (rest : α → Recorded β) :
    (first >>= rest).journal = first.journal ++ (rest first.value).journal := rfl

@[simp] theorem value_map (f : α → β) (result : Recorded α) :
    (f <$> result).value = f result.value := rfl

@[simp] theorem journal_map (f : α → β) (result : Recorded α) :
    (f <$> result).journal = result.journal := by
  change result.journal ++ [] = result.journal
  rw [List.append_nil]

@[simp] theorem journal_consult (datatype : Datatype) (question : Question) :
    (consult datatype question).journal = [.consulted datatype question] := rfl

@[simp] theorem journal_log (event : Event) : (log event).journal = [.logged event] := rfl

end Laws

end Recorded

end Datatypes
