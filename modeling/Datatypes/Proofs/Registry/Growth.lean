import Datatypes.Proofs.Registry.Answers
import Datatypes.Proofs.Registry.Candidates
import Datatypes.Proofs.Store.Laws

/-! # How a registry grows

Over a lawful store a proposal either leaves the registry as it is or adds one
datatype under a URI that was free. Hence entries stay for ever, and each stands
under its own URI.
-/

namespace Datatypes.Registry

variable {σ : Type} [Store σ]

/-- What one registry holds, the other holds as well, and the settings are the same. -/
structure Extends (r later : Registry σ) : Prop where
  settings : later.settings = r.settings
  get? : ∀ uri d, r.get? uri = some d → later.get? uri = some d

namespace Extends

variable {r later last : Registry σ}

theorem refl (r : Registry σ) : r.Extends r :=
  ⟨rfl, fun _ _ hget => hget⟩

theorem trans (hfirst : r.Extends later) (hsecond : later.Extends last) : r.Extends last :=
  ⟨hsecond.settings.trans hfirst.settings,
    fun uri d hget => hsecond.get? uri d (hfirst.get? uri d hget)⟩

theorem holds (hextends : r.Extends later) {d : Datatype} (hd : r.Holds d) : later.Holds d :=
  hextends.get? d.uri d hd

end Extends

/-- The settings are none of a store's business, lawful or not. -/
theorem settings_propose (r : Registry σ) (candidate : Except RegistryError Datatype) :
    (r.propose candidate).2.settings = r.settings := by
  cases candidate with
  | error e => rfl
  | ok d => rw [propose_ok]

theorem settings_run (r : Registry σ) (requests : List Request) :
    (r.run requests).2.settings = r.settings := by
  refine run_induction (motive := fun later => later.settings = r.settings) ?_ r requests rfl
  intro later candidate hsettings
  rw [settings_propose, hsettings]

section Lawful

variable [EmptyCollection σ] [LawfulStore σ]

theorem propose_taken {r : Registry σ} {d taken : Datatype} (htaken : r.get? d.uri = some taken) :
    r.propose (.ok d) = (.error (.duplicateUri d.uri), r) := by
  have hsome : (Store.get? r.store d.uri).isSome := Option.isSome_of_eq_some htaken
  rw [propose_ok, LawfulStore.insert_taken r.store d hsome]
  rfl

theorem propose_free {r : Registry σ} {d : Datatype} (hfree : r.get? d.uri = none) :
    (r.propose (.ok d)).1 = .ok d := by
  rw [propose_ok, LawfulStore.insert_free r.store d hfree]
  rfl

theorem get?_propose_free {r : Registry σ} {d : Datatype} (hfree : r.get? d.uri = none)
    (uri : String) :
    (r.propose (.ok d)).2.get? uri = if uri = d.uri then some d else r.get? uri := by
  rw [propose_ok]
  exact LawfulStore.get?_insert r.store d hfree uri

/-- A URI that is taken is logged as a duplicate. -/
theorem insert_taken {r : Registry σ} {d taken : Datatype} (htaken : r.get? d.uri = some taken) :
    r.insert d = (do
      Recorded.log (.registrationRejected d.uri (.duplicateUri d.uri))
      return (.error (.duplicateUri d.uri), r)) := by
  have hsome : (Store.get? r.store d.uri).isSome := Option.isSome_of_eq_some htaken
  unfold insert
  rw [LawfulStore.insert_taken r.store d hsome]

/-- A datatype for a free URI is logged with the URI. -/
theorem insert_free {r : Registry σ} {d : Datatype} (hfree : r.get? d.uri = none) :
    r.insert d = (do
      Recorded.log (.registered d)
      return (.ok d, (r.propose (.ok d)).2)) := by
  have hstored : Store.insert r.store d = (.ok (), (Store.insert r.store d).2) :=
    Prod.ext (LawfulStore.insert_free r.store d hfree) rfl
  rw [propose_ok]
  unfold insert
  rw [hstored]

/-- A datatype that is accepted is held under its URI, and it alone is logged. -/
theorem insert_ok {r : Registry σ} {d e : Datatype} (hok : (r.insert d).value.1 = .ok e) :
    e = d ∧ (r.insert d).value.2.get? d.uri = some d ∧ (r.insert d).events = [.registered d] := by
  cases hget : r.get? d.uri with
  | none =>
      rw [insert_free hget] at hok ⊢
      refine ⟨(Except.ok.inj hok).symm, ?_, rfl⟩
      change (r.propose (.ok d)).2.get? d.uri = some d
      rw [get?_propose_free hget, if_pos rfl]
  | some taken =>
      rw [insert_taken hget] at hok
      contradiction

/-- A datatype that is refused is a duplicate, and is logged as such. -/
theorem insert_error {r : Registry σ} {d : Datatype} {e : RegistryError}
    (herror : (r.insert d).value.1 = .error e) :
    e = .duplicateUri d.uri ∧ (r.insert d).events = [.registrationRejected d.uri e] := by
  cases hget : r.get? d.uri with
  | none =>
      rw [insert_free hget] at herror
      contradiction
  | some taken =>
      rw [insert_taken hget] at herror ⊢
      obtain rfl := (Except.error.inj herror).symm
      exact ⟨rfl, rfl⟩

/-- A proposal that is turned down leaves the registry as it was. -/
theorem propose_eq_of_error {r : Registry σ} {candidate : Except RegistryError Datatype}
    {e : RegistryError} (herror : (r.propose candidate).1 = .error e) :
    (r.propose candidate).2 = r := by
  cases candidate with
  | error e => rfl
  | ok d =>
      cases hget : r.get? d.uri with
      | none =>
          rw [propose_free hget] at herror
          contradiction
      | some taken => rw [propose_taken hget]

/-- What is registered is what was proposed, and its URI was free. -/
theorem of_propose_ok {r : Registry σ} {candidate : Except RegistryError Datatype} {d : Datatype}
    (hok : (r.propose candidate).1 = .ok d) : candidate = .ok d ∧ r.get? d.uri = none := by
  cases candidate with
  | error e => contradiction
  | ok proposed =>
      cases hget : r.get? proposed.uri with
      | none =>
          rw [propose_free hget, Except.ok.injEq] at hok
          subst hok
          exact ⟨rfl, hget⟩
      | some taken =>
          rw [propose_taken hget] at hok
          contradiction

/-- What has been registered is held. -/
theorem holds_of_propose_ok {r : Registry σ} {candidate : Except RegistryError Datatype}
    {d : Datatype} (hok : (r.propose candidate).1 = .ok d) : (r.propose candidate).2.Holds d := by
  obtain ⟨rfl, hfree⟩ := of_propose_ok hok
  rw [Holds, get?_propose_free hfree, if_pos rfl]

theorem extends_propose (r : Registry σ) (candidate : Except RegistryError Datatype) :
    r.Extends (r.propose candidate).2 := by
  refine ⟨r.settings_propose candidate, ?_⟩
  intro uri entry hentry
  cases candidate with
  | error e => exact hentry
  | ok d =>
      rw [propose_ok]
      exact LawfulStore.get?_insert_of_some hentry d

theorem extends_proposeAll (r : Registry σ) (candidates : List (Except RegistryError Datatype)) :
    r.Extends (r.proposeAll candidates).2 := by
  refine proposeAll_induction (motive := r.Extends) ?_ r candidates (.refl r)
  intro later candidate hextends
  exact hextends.trans (later.extends_propose candidate)

theorem extends_run (r : Registry σ) (requests : List Request) :
    r.Extends (r.run requests).2 := by
  rw [(r.run_proposeAll requests).2]
  exact r.extends_proposeAll _

/-- After a proposal the URIs that were taken are taken, and the one that the candidate
is bound to. -/
theorem isSome_get?_propose_iff (r : Registry σ) (candidate : Except RegistryError Datatype)
    (uri : String) :
    ((r.propose candidate).2.get? uri).isSome ↔
      (r.get? uri).isSome ∨ candidate.map Datatype.uri = .ok uri := by
  cases candidate with
  | error e => simp [propose, Except.map]
  | ok d =>
      simp only [Except.map, Except.ok.injEq]
      cases hget : r.get? d.uri with
      | none =>
          rw [get?_propose_free hget]
          by_cases huri : uri = d.uri
          · simp [huri]
          · simp [huri, Ne.symm huri]
      | some taken =>
          rw [propose_taken hget]
          constructor
          · exact Or.inl
          · rintro (hsome | rfl)
            · exact hsome
            · exact Option.isSome_of_eq_some hget

theorem isSome_get?_proposeAll_iff (r : Registry σ)
    (candidates : List (Except RegistryError Datatype)) (uri : String) :
    ((r.proposeAll candidates).2.get? uri).isSome ↔
      (r.get? uri).isSome ∨ ∃ candidate ∈ candidates, candidate.map Datatype.uri = .ok uri := by
  induction candidates generalizing r with
  | nil => simp [proposeAll]
  | cons candidate rest ih =>
      change (((r.propose candidate).2.proposeAll rest).2.get? uri).isSome ↔ _
      rw [ih, isSome_get?_propose_iff, or_assoc]
      simp only [List.mem_cons, exists_eq_or_imp]

/-- A URI is taken at the end of a run exactly if it was taken at first or a request has
proposed a datatype that is bound to it. -/
theorem isSome_get?_run_iff (r : Registry σ) (requests : List Request) (uri : String) :
    ((r.run requests).2.get? uri).isSome ↔
      (r.get? uri).isSome ∨ ∃ request ∈ requests, ∃ candidate ∈ request.candidates,
        candidate.map Datatype.uri = .ok uri := by
  rw [(r.run_proposeAll requests).2, isSome_get?_proposeAll_iff]
  simp only [List.mem_flatMap]
  refine or_congr_right ⟨?_, ?_⟩
  · rintro ⟨candidate, ⟨request, hrequest, hmem⟩, huri⟩
    exact ⟨request, hrequest, candidate, hmem, huri⟩
  · rintro ⟨request, hrequest, candidate, hmem, huri⟩
    exact ⟨candidate, ⟨request, hrequest, hmem⟩, huri⟩

theorem Filed.propose {r : Registry σ} (hfiled : r.Filed)
    (candidate : Except RegistryError Datatype) : (r.propose candidate).2.Filed := by
  cases hresult : (r.propose candidate).1 with
  | error e =>
      rw [propose_eq_of_error hresult]
      exact hfiled
  | ok d =>
      obtain ⟨rfl, hfree⟩ := of_propose_ok hresult
      intro uri entry hentry
      rw [get?_propose_free hfree] at hentry
      by_cases huri : uri = d.uri
      · rw [if_pos huri, Option.some.injEq] at hentry
        rw [← hentry, huri]
      · rw [if_neg huri] at hentry
        exact hfiled uri entry hentry

theorem Filed.empty (settings : Settings) : (⟨∅, settings⟩ : Registry σ).Filed := by
  intro uri d hget
  have hempty := LawfulStore.get?_empty (σ := σ) uri
  exact absurd (hempty.symm.trans hget) (Option.some_ne_none d).symm

/-- In every registry that a run can reach, each datatype stands under its own URI. -/
theorem filed_run (settings : Settings) (requests : List Request) :
    ((⟨∅, settings⟩ : Registry σ).run requests).2.Filed :=
  run_induction (fun _ candidate hfiled => hfiled.propose candidate) _ requests (.empty settings)

end Lawful

end Datatypes.Registry
