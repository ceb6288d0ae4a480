import Datatypes.Proofs.Registry.Alike
import Datatypes.Proofs.Registry.Startup
import Datatypes.Proofs.Store.Hashed

/-! # The datatype of strings

The settings may ask for the datatype of strings to be registered at the start. That comes to
the same as registering it first: no later request tells the difference. Once it is registered
its rules answer for strings for good, whatever else is registered or offered.
-/

namespace Datatypes.Registry

variable {σ : Type} [Store σ]

/-- Every lexical value is a string and is its own canonical form, strings are equal only if
they are identical, and literals of other datatypes become strings by the export rule of their
datatype. -/
structure ServesStrings (r : Registry σ) : Prop where
  isValid : ∀ x, (r.isValid Builtin.xsdStringUri x).value = true
  canonicalise : ∀ x, (r.canonicalise ⟨Builtin.xsdStringUri, x⟩).value =
    .ok ⟨Builtin.xsdStringUri, x⟩
  equal_iff : ∀ x y,
    (r.equal ⟨Builtin.xsdStringUri, x⟩ ⟨Builtin.xsdStringUri, y⟩).value = true ↔ x = y
  accepts_iff : ∀ t : TypedLiteral, t.uri ≠ Builtin.xsdStringUri →
    ((r.accepts Builtin.xsdStringUri t).value = true ↔
      ∃ l, (r.parse t.uri t.lexicalValue).value = .ok l ∧
        (l.datatype.exported? t Builtin.xsdStringUri).isSome)

/-- The rule of strings holds of two strings in either order, and of identical ones only. -/
theorem equals_xsdString (x y : String) :
    Builtin.xsdStringDescriptor.equals ⟨Builtin.xsdStringUri, x⟩ ⟨Builtin.xsdStringUri, y⟩ =
      decide (x = y) := by
  rw [Bool.eq_iff_iff, decide_eq_true_iff, eq_comm (a := x)]
  simp [Builtin.xsdStringDescriptor]

theorem canonicalValue_xsdString (x : String) : Builtin.xsdStringDatatype.canonicalValue x = x :=
  ite_self x

/-- Strings import nothing, and find legal whatever the export of another datatype gives. -/
theorem takesOver_xsdString (source : Datatype) (lexicalValue : String) :
    Builtin.xsdStringDatatype.takesOver source lexicalValue =
      (source.exported? ⟨source.uri, lexicalValue⟩ Builtin.xsdStringUri).isSome := by
  change Option.any _ (source.exported? ⟨source.uri, lexicalValue⟩ Builtin.xsdStringUri) = _
  cases source.exported? ⟨source.uri, lexicalValue⟩ Builtin.xsdStringUri <;> rfl

/-- With the datatype of strings under its URI, a registry serves strings in both settings for
the comparison. -/
theorem Filed.servesStrings {r : Registry σ} (hfiled : r.Filed)
    (hstring : r.Holds Builtin.xsdStringDatatype) : r.ServesStrings where
  isValid x := hstring.isValid x
  canonicalise x := by
    have hcanonical := hstring.canonicalise x
    rw [canonicalValue_xsdString] at hcanonical
    exact hcanonical
  equal_iff x y := by
    have hequal := hstring.equal hstring x y
    simp only [Builtin.xsdStringDatatype, equals_xsdString, eq_comm (a := y)] at hequal
    rw [hequal]
    cases r.settings.bidirectionalEquality <;> simp [Builtin.xsdStringDescriptor]
  accepts_iff t hother := by
    obtain ⟨uri, x⟩ := t
    cases hget : r.get? uri with
    | none =>
        have hnot : (r.accepts Builtin.xsdStringUri ⟨uri, x⟩).value = false :=
          value_accepts_of_free_source hget _
        rw [hnot, parse_free hget]
        simp
    | some source =>
        have hsource : r.Holds source := hfiled.holds hget
        obtain rfl : source.uri = uri := hfiled uri source hget
        have haccepts : (r.accepts Builtin.xsdStringUri ⟨source.uri, x⟩).value =
            (source.descriptor.isLegal x &&
              Builtin.xsdStringDatatype.takesOver source x) :=
          hstring.accepts_other hsource hother x
        rw [haccepts, takesOver_xsdString, hsource.parse]
        cases source.descriptor.isLegal x <;> simp

section Lawful

variable [EmptyCollection σ] [LawfulStore σ]

/-- Once the datatype of strings is registered, no request changes what strings are. -/
theorem servesStrings_run {r : Registry σ} (hfiled : r.Filed)
    (hstring : r.Holds Builtin.xsdStringDatatype) (requests : List Request) :
    (r.run requests).2.ServesStrings := by
  have hlater : (r.run requests).2.Filed :=
    run_induction (fun _ candidate hreached => hreached.propose candidate) r requests hfiled
  exact hlater.servesStrings ((r.extends_run requests).holds hstring)

/-- The first registration is not refused. -/
theorem step_register_xsdString (settings : Settings) :
    let step := (⟨∅, settings⟩ : Registry σ).step (.register Builtin.xsdString)
    step.value.1 = .registration (.ok Builtin.xsdStringDatatype) ∧
      step.value.2.Filed ∧ step.value.2.Holds Builtin.xsdStringDatatype := by
  intro step
  have hfree : (⟨∅, settings⟩ : Registry σ).get? Builtin.xsdStringDatatype.uri = none :=
    LawfulStore.get?_empty _
  have hregistered := propose_free hfree
  have hvalue := (⟨∅, settings⟩ : Registry σ).value_step_register Builtin.xsdString
  rw [Builtin.candidate_xsdString] at hvalue
  refine ⟨?_, filed_run settings [.register Builtin.xsdString], ?_⟩
  · rw [hvalue, hregistered]
  · rw [hvalue]
    exact holds_of_propose_ok hregistered

end Lawful

/-- A registry that is set up with the datatype of strings, which never fails, cannot be told
apart from one that is set up without and has it registered first, whatever is done with both
of them later. Both serve strings from then on. -/
theorem preregistered_as_registered_first (both : Bool) :
    ∃ r r' : Registry HashedStore,
      (start ∅ { bidirectionalEquality := both, preregisterBuiltin := true }).value = .ok r ∧
      (start ∅ { bidirectionalEquality := both, preregisterBuiltin := false }).value = .ok r' ∧
      (r'.step (.register Builtin.xsdString)).value.1 =
        .registration (.ok Builtin.xsdStringDatatype) ∧
      ∀ requests,
        let reached := (r.run requests).2
        let reached' := ((r'.step (.register Builtin.xsdString)).value.2.run requests).2
        reached.Indistinguishable reached' ∧ reached.ServesStrings ∧
          reached'.ServesStrings := by
  let preset : Registry HashedStore := ⟨∅, ⟨both, true⟩⟩
  let plain : Registry HashedStore := ⟨∅, ⟨both, false⟩⟩
  let first := Request.register Builtin.xsdString
  -- The settings differ only in what the set-up does, and no request looks at that.
  have hempty : preset.Alike plain := ⟨rfl, fun _ => rfl⟩
  have halike := (hempty.step first).related
  obtain ⟨-, hfiled, hholds⟩ := step_register_xsdString (σ := HashedStore) preset.settings
  obtain ⟨hfirst, hfiled', hholds'⟩ := step_register_xsdString (σ := HashedStore) plain.settings
  refine ⟨(preset.step first).value.2, plain, value_start _, value_start _, hfirst, ?_⟩
  intro requests reached reached'
  exact ⟨(halike.run requests).2.indistinguishable, servesStrings_run hfiled hholds requests,
    servesStrings_run hfiled' hholds' requests⟩

end Datatypes.Registry
