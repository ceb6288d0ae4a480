import Datatypes.Proofs.Journal
import Datatypes.Registry.Run

/-! # Clients word what registries answer

A client puts each request to its registry. It adds nothing to the journal and changes
nothing in the answer but the words of a failure.
-/

namespace Datatypes.Client

variable {σ : Type} [Store σ]

/-- A client's answer to a request is the registry's, in the users' words. -/
theorem step_eq (r : Registry σ) (request : Request) :
    (⟨r⟩ : Client σ).step request =
      (fun answered => (answered.1.mapError RegistryError.toDatatypeError, ⟨answered.2⟩)) <$>
        r.step request := by
  cases request with
  | register _ =>
      simp only [step, Registry.step, register, Functor.map_map]
      rfl
  | define _ =>
      simp only [step, Registry.step, define, Functor.map_map]
      rfl
  | registerBatch _ =>
      simp only [step, Registry.step, registerBatch, map_bind, map_pure, Functor.map_map]
      rw [bind_pure_comp]
      rfl
  | parse _ _ =>
      simp only [step, Registry.step, parse, Functor.map_map]
      rfl
  | canonicalise _ =>
      simp only [step, Registry.step, canonicalise, Functor.map_map]
      rfl
  | isValid _ _ | accepts _ _ | equal _ _ =>
      simp only [step, Registry.step, Functor.map_map]
      rfl
  | get _ | uris | contains _ | size | isEmpty => rfl

theorem value_step (r : Registry σ) (request : Request) :
    ((⟨r⟩ : Client σ).step request).value =
      ((r.step request).value.1.mapError RegistryError.toDatatypeError,
        ⟨(r.step request).value.2⟩) := by
  rw [step_eq, Recorded.value_map]

/-- A client's answers in a run are the registry's, in the users' words and with the same
journals, and the registry that is reached is the same. -/
theorem run_eq (r : Registry σ) (requests : List Request) :
    (⟨r⟩ : Client σ).run requests =
      ((r.run requests).1.map fun answered =>
          ⟨answered.value.mapError RegistryError.toDatatypeError, answered.journal⟩,
        ⟨(r.run requests).2⟩) := by
  induction requests generalizing r with
  | nil => rfl
  | cons request rest ih =>
      have hstep := step_eq r request
      have hvalue := value_step r request
      have hjournal : ((⟨r⟩ : Client σ).step request).journal = (r.step request).journal := by
        rw [hstep, Recorded.journal_map]
      simp only [run, Registry.run, List.map_cons, hvalue, hjournal, ih]

theorem answer_of_error {r : Registry σ} {request : Request} {e : RegistryError}
    (herror : (r.step request).value.1 = .registration (.error e)) :
    ((⟨r⟩ : Client σ).step request).value.1 = .registration (.error e.toDatatypeError) := by
  rw [value_step, herror]
  rfl

end Datatypes.Client
