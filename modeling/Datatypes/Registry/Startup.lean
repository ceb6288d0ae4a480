import Datatypes.Builtin
import Datatypes.Registry.Registration

/-! # Setting up a registry -/

namespace Datatypes.Registry

open Recorded

variable {σ : Type} [Store σ]

/-- The registry over a store with the built-in datatypes that the settings ask for. -/
def preregister (r : Registry σ) : Recorded (Except RegistryError (Registry σ)) :=
  if r.settings.preregisterBuiltin then do
    let attempt ← r.register Builtin.xsdString
    match attempt.1 with
    | .ok _ => return .ok attempt.2
    | .error e => return .error e
  else
    return .ok r

/-- A registry over a store, ready for use. It fails if a built-in datatype cannot be
registered. -/
def start (store : σ) (settings : Settings) : Recorded (Except RegistryError (Registry σ)) := do
  log .initializing
  log (.settingsLoaded settings)
  match ← preregister ⟨store, settings⟩ with
  | .error e => return .error e
  | .ok r =>
      log (.initialized r.size)
      return .ok r

end Datatypes.Registry
