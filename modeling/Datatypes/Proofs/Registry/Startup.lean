import Datatypes.Proofs.Registry.Growth
import Datatypes.Registry.Startup

/-! # Setting up is a run

A registry that has been set up is the one that a run of opening requests reaches
from the empty one. The set-up never fails over a lawful store.
-/

namespace Datatypes

/-- The requests that the set-up makes on behalf of the settings. -/
def Settings.opening (settings : Settings) : List Request :=
  if settings.preregisterBuiltin then [.register Builtin.xsdString] else []

/-- The datatype of strings. -/
def Builtin.xsdStringDatatype : Datatype :=
  ⟨Builtin.xsdStringUri, Builtin.xsdStringDescriptor⟩

theorem Builtin.stable_xsdString : Builtin.xsdString.Stable :=
  .fixed _ _

theorem Builtin.candidate_xsdString :
    Builtin.xsdString.candidate = .ok Builtin.xsdStringDatatype := by
  rw [Builtin.stable_xsdString.candidate_eq]
  exact if_neg (by decide)

namespace Registry

variable {σ : Type} [Store σ] [EmptyCollection σ] [LawfulStore σ]

theorem value_preregister (settings : Settings) :
    (preregister (⟨∅, settings⟩ : Registry σ)).value =
      .ok ((⟨∅, settings⟩ : Registry σ).run settings.opening).2 := by
  unfold preregister Settings.opening
  cases hbuiltin : settings.preregisterBuiltin with
  | false => rfl
  | true =>
      -- The store is empty, so the datatype of strings cannot be refused.
      have hfree : (⟨∅, settings⟩ : Registry σ).get? Builtin.xsdStringDatatype.uri = none :=
        LawfulStore.get?_empty _
      have hregistered := propose_free hfree
      simp only [if_true, Recorded.value_bind, value_register, Builtin.candidate_xsdString,
        hregistered, Recorded.value_pure, run, step, Recorded.value_map]

/-- The set-up succeeds, and leaves the registry that the opening requests lead to. -/
theorem value_start (settings : Settings) :
    (start (∅ : σ) settings).value =
      .ok ((⟨∅, settings⟩ : Registry σ).run settings.opening).2 := by
  unfold start
  simp only [Recorded.value_bind, value_preregister]
  rfl

end Registry

end Datatypes
