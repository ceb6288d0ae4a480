import Datatypes.Proofs.Registry.Growth
import Datatypes.Proofs.Store.Hashed

/-! # Canonical values

The canonical form of a legal value need not be legal; the value is kept then. So the outcome is
always a value of the same datatype. Two values with the same form share their canonical value
as long as the form is legal, and a rule whose forms are forms of their own leaves canonical
values as they are.
-/

namespace Datatypes

namespace Datatype

variable {d : Datatype} {x y : String}

/-- The form of a legal value is a form of its own. -/
def SettlesForms (d : Datatype) : Prop :=
  ∀ x, d.descriptor.isLegal x →
    d.descriptor.canonicalForm (d.descriptor.canonicalForm x) = d.descriptor.canonicalForm x

/-- Literals of the datatype are equal, by its own rule, if they have the same form. -/
def EquatesForms (d : Datatype) : Prop :=
  ∀ x y, d.descriptor.isLegal x → d.descriptor.isLegal y →
    d.descriptor.canonicalForm x = d.descriptor.canonicalForm y →
      d.descriptor.equals ⟨d.uri, x⟩ ⟨d.uri, y⟩

theorem canonicalValue_of_legal (hform : d.descriptor.isLegal (d.descriptor.canonicalForm x)) :
    d.canonicalValue x = d.descriptor.canonicalForm x :=
  if_pos hform

theorem canonicalValue_of_illegal
    (hform : ¬ d.descriptor.isLegal (d.descriptor.canonicalForm x)) : d.canonicalValue x = x :=
  if_neg hform

theorem SettlesForms.canonicalValue_canonicalValue (hsettles : d.SettlesForms)
    (hlegal : d.descriptor.isLegal x) : d.canonicalValue (d.canonicalValue x) = d.canonicalValue x := by
  by_cases hform : d.descriptor.isLegal (d.descriptor.canonicalForm x)
  · have hsettled := hsettles x hlegal
    rw [canonicalValue_of_legal hform, canonicalValue_of_legal (hsettled.symm ▸ hform), hsettled]
  · rw [canonicalValue_of_illegal hform, canonicalValue_of_illegal hform]

/-- Only a form that is not legal leaves apart what has the same form. -/
theorem canonicalValue_of_form_eq
    (hsame : d.descriptor.canonicalForm x = d.descriptor.canonicalForm y) :
    d.canonicalValue x = d.canonicalValue y ∨
      ¬ d.descriptor.isLegal (d.descriptor.canonicalForm x) ∧
        d.canonicalValue x = x ∧ d.canonicalValue y = y := by
  by_cases hform : d.descriptor.isLegal (d.descriptor.canonicalForm x)
  · left
    rw [canonicalValue_of_legal hform, canonicalValue_of_legal (hsame ▸ hform), hsame]
  · right
    exact ⟨hform, canonicalValue_of_illegal hform, canonicalValue_of_illegal (hsame ▸ hform)⟩

/-- A value is its own canonical value, or it is equal to it by the rule of the datatype. -/
theorem EquatesForms.equals_canonicalValue (hequates : d.EquatesForms)
    (hsettles : d.SettlesForms) (hlegal : d.descriptor.isLegal x) :
    d.canonicalValue x = x ∨ d.descriptor.equals ⟨d.uri, x⟩ ⟨d.uri, d.canonicalValue x⟩ := by
  by_cases hform : d.descriptor.isLegal (d.descriptor.canonicalForm x)
  · right
    rw [canonicalValue_of_legal hform]
    exact hequates x _ hlegal hform (hsettles x hlegal).symm
  · exact .inl (canonicalValue_of_illegal hform)

end Datatype

namespace Registry

variable {σ : Type} [Store σ] {r : Registry σ}

theorem canonicalise_eq_error_iff (r : Registry σ) (t : TypedLiteral) (e : RegistryError) :
    (r.canonicalise t).value = .error e ↔
      (r.parse t.uri t.lexicalValue).value = .error e := by
  rw [value_canonicalise]
  cases (r.parse t.uri t.lexicalValue).value <;> simp [Except.map]

/-- What has a canonical value is a legal value of the datatype registered for it. -/
theorem Filed.of_canonicalise_ok (hfiled : r.Filed) {t canonical : TypedLiteral}
    (hok : (r.canonicalise t).value = .ok canonical) :
    ∃ d, r.Holds d ∧ t.uri = d.uri ∧ d.descriptor.isLegal t.lexicalValue ∧
      canonical = ⟨d.uri, d.canonicalValue t.lexicalValue⟩ := by
  rw [value_canonicalise] at hok
  cases hparse : (r.parse t.uri t.lexicalValue).value with
  | error e =>
      rw [hparse] at hok
      contradiction
  | ok l =>
      obtain ⟨hget, hlexical, hlegal⟩ := get?_of_parse_ok hparse
      rw [hparse, Except.map, Except.ok.injEq, hlexical] at hok
      have huri : l.datatype.uri = t.uri := hfiled t.uri l.datatype hget
      exact ⟨l.datatype, hfiled.holds hget, huri.symm, hlegal, hok.symm⟩

namespace Holds

variable {d : Datatype} {x y : String}

theorem canonicalise_of_legal (hd : r.Holds d) (hlegal : d.descriptor.isLegal x) :
    (r.canonicalise ⟨d.uri, x⟩).value = .ok ⟨d.uri, d.canonicalValue x⟩ :=
  (hd.canonicalise x).trans (if_pos hlegal)

/-- A literal is equal to its canonical form, whichever directions the settings admit. -/
theorem equal_canonicalValue (hd : r.Holds d) (hsettles : d.SettlesForms)
    (hequates : d.EquatesForms) (hlegal : d.descriptor.isLegal x) :
    (r.equal ⟨d.uri, x⟩ ⟨d.uri, d.canonicalValue x⟩).value = true := by
  rw [hd.equal hd, hlegal, Datatype.isLegal_canonicalValue hlegal]
  rcases hequates.equals_canonicalValue hsettles hlegal with hsame | hequals
  · simp [hsame]
  · simp [hequals]

end Holds

/-- How a registry brings literals into canonical form. -/
structure Normalises (r : Registry σ) : Prop where
  error_iff : ∀ t e, (r.canonicalise t).value = .error e ↔
    (r.parse t.uri t.lexicalValue).value = .error e
  /-- The outcome is a literal of the same datatype, and legal. -/
  ok : ∀ t canonical, (r.canonicalise t).value = .ok canonical →
    canonical.uri = t.uri ∧ (r.isValid canonical.uri canonical.lexicalValue).value ∧
      ∃ d, r.get? t.uri = some d ∧
        canonical.lexicalValue =
          if d.descriptor.isLegal (d.descriptor.canonicalForm t.lexicalValue) then
            d.descriptor.canonicalForm t.lexicalValue
          else t.lexicalValue
  idempotent : ∀ d, r.Holds d → d.SettlesForms → ∀ x canonical,
    (r.canonicalise ⟨d.uri, x⟩).value = .ok canonical →
      (r.canonicalise canonical).value = .ok canonical
  same_form : ∀ d, r.Holds d → ∀ x y, d.descriptor.isLegal x → d.descriptor.isLegal y →
    d.descriptor.canonicalForm x = d.descriptor.canonicalForm y →
      (∃ canonical, (r.canonicalise ⟨d.uri, x⟩).value = .ok canonical ∧
        (r.canonicalise ⟨d.uri, y⟩).value = .ok canonical) ∨
      ¬ d.descriptor.isLegal (d.descriptor.canonicalForm x) ∧
        (r.canonicalise ⟨d.uri, x⟩).value = .ok ⟨d.uri, x⟩ ∧
        (r.canonicalise ⟨d.uri, y⟩).value = .ok ⟨d.uri, y⟩
  equal : ∀ d, r.Holds d → d.SettlesForms → d.EquatesForms → ∀ x, d.descriptor.isLegal x →
    ∃ canonical, (r.canonicalise ⟨d.uri, x⟩).value = .ok canonical ∧
      (r.equal ⟨d.uri, x⟩ canonical).value

theorem Filed.normalises (hfiled : r.Filed) : r.Normalises where
  error_iff := r.canonicalise_eq_error_iff
  ok t canonical hok := by
    obtain ⟨d, hd, huri, hlegal, rfl⟩ := hfiled.of_canonicalise_ok hok
    refine ⟨huri.symm, ?_, d, huri ▸ hd, rfl⟩
    rw [hd.isValid]
    exact Datatype.isLegal_canonicalValue hlegal
  idempotent d hd hsettles x canonical hok := by
    obtain ⟨e, he, huri, hlegal, rfl⟩ := hfiled.of_canonicalise_ok hok
    obtain rfl := hd.eq_of_uri_eq he huri.symm
    rw [hd.canonicalise_of_legal (Datatype.isLegal_canonicalValue hlegal),
      hsettles.canonicalValue_canonicalValue hlegal]
  same_form d hd x y hx hy hsame := by
    rw [hd.canonicalise_of_legal hx, hd.canonicalise_of_legal hy]
    rcases Datatype.canonicalValue_of_form_eq hsame with hvalue | ⟨hform, hx, hy⟩
    · exact .inl ⟨_, rfl, by rw [hvalue]⟩
    · exact .inr ⟨hform, by rw [hx], by rw [hy]⟩
  equal d hd hsettles hequates x hlegal :=
    ⟨_, hd.canonicalise_of_legal hlegal, hd.equal_canonicalValue hsettles hequates hlegal⟩

/-- In every registry that a run reaches canonical forms are legal, and a good rule for them
makes a normaliser. -/
theorem canonicalise_normalises (settings : Settings) (requests : List Request) :
    ((⟨∅, settings⟩ : Registry HashedStore).run requests).2.Normalises :=
  (filed_run settings requests).normalises

end Registry

end Datatypes
