import Datatypes.Proofs.Registry.Answers
import Datatypes.Proofs.Registry.Parallel
import Datatypes.Store.Ordered

/-! # Equality in one direction and in both

A setting says whether the datatype of the second literal is asked as well when the
first one's does not find two literals equal. Comparing in both directions is comparing
in one direction, this way round or the other. Nothing else depends on the setting.
-/

namespace Datatypes

/-- The request asks whether two literals are equal. -/
def Request.isComparison : Request → Bool
  | .equal _ _ => true
  | _ => false

/-- The datatype with another rule for equality. -/
def Datatype.withEquality (d : Datatype) (rule : TypedLiteral → TypedLiteral → Bool) : Datatype :=
  { d with descriptor := { d.descriptor with equals := rule } }

namespace Registry

open Recorded

variable {σ : Type} [Store σ]

/-- The registry with the setting for comparisons in both directions, or in one. -/
def directed (r : Registry σ) (both : Bool) : Registry σ :=
  { r with settings := { r.settings with bidirectionalEquality := both } }

/-! ## What does not depend on the setting -/

/-- The other registry is the one with the setting. -/
def IsDirected (both : Bool) (r other : Registry σ) : Prop :=
  other = r.directed both

theorem parallel_insert_directed (both : Bool) (r other : Registry σ) (d : Datatype)
    (hother : IsDirected both r other) :
    Parallel (IsDirected both) (r.insert d) (other.insert d) := by
  subst hother
  have hstore : (r.directed both).store = r.store := rfl
  unfold insert
  rw [hstore]
  rcases Store.insert r.store d with ⟨_ | _, store⟩ <;> exact ⟨rfl, rfl, rfl⟩

section Directed

variable (r : Registry σ) (both : Bool)

/-- Any request but a comparison is answered alike under both settings, with the same
journal, and leads to the same registry but for the setting. -/
theorem step_directed {request : Request} (hother : request.isComparison = false) :
    Parallel (IsDirected both) (r.step request) ((r.directed both).step request) := by
  have hinsert := parallel_insert_directed (σ := σ) both
  cases request with
  | equal _ _ => contradiction
  | register offer => exact (parallel_register hinsert rfl offer).map _
  | define definition? => exact (parallel_define hinsert rfl definition?).map _
  | registerBatch offers => exact (parallel_registerBatch hinsert rfl offers).map _
  | parse _ _ | isValid _ _ | accepts _ _ | canonicalise _ => exact ⟨rfl, rfl, rfl⟩
  | get _ | uris | contains _ | size | isEmpty => exact ⟨rfl, rfl, rfl⟩

/-- A comparison leaves the registry as it is, whatever the setting. -/
theorem registry_step_directed (request : Request) :
    ((r.directed both).step request).value.2 = (r.step request).value.2.directed both := by
  cases hcomparison : request.isComparison with
  | false => exact (r.step_directed both hcomparison).related
  | true =>
      cases request with
      | equal _ _ => rfl
      | _ => contradiction

theorem registry_run_directed (requests : List Request) :
    ((r.directed both).run requests).2 = (r.run requests).2.directed both := by
  induction requests generalizing r with
  | nil => rfl
  | cons request rest ih =>
      change (((r.directed both).step request).value.2.run rest).2 = _
      rw [registry_step_directed]
      exact ih (r.step request).value.2

/-- In a run the setting shows in the answers to comparisons only. -/
theorem run_directed_getElem? {requests : List Request} {i : Nat} {request : Request}
    (hrequest : requests[i]? = some request) (hother : request.isComparison = false) :
    ((r.directed both).run requests).1[i]? = (r.run requests).1[i]? := by
  induction requests generalizing r i with
  | nil => contradiction
  | cons first rest ih =>
      cases i with
      | zero =>
          cases hrequest
          have hstep := r.step_directed both hother
          change some (Recorded.mk ((r.directed both).step request).value.1 _) = some _
          rw [hstep.result, hstep.journal]
      | succ i =>
          change (((r.directed both).step first).value.2.run rest).1[i]? = _
          rw [registry_step_directed]
          exact ih (r.step first).value.2 hrequest

end Directed

/-! ## Comparisons -/

@[simp] theorem parse_directed (r : Registry σ) (both : Bool) (uri lexicalValue : String) :
    (r.directed both).parse uri lexicalValue = r.parse uri lexicalValue := rfl

theorem value_equal_directed (r : Registry σ) (a b : TypedLiteral) :
    ((r.directed true).equal a b).value =
      (((r.directed false).equal a b).value || ((r.directed false).equal b a).value) := by
  simp only [value_equal, parse_directed]
  cases (r.parse a.uri a.lexicalValue).value with
  | error e => cases (r.parse b.uri b.lexicalValue).value <;> rfl
  | ok left =>
      cases (r.parse b.uri b.lexicalValue).value with
      | error e => rfl
      | ok right =>
          -- Which of two literals comes first makes no difference to whether they are identical.
          simp only [directed, Bool.true_and, Bool.false_and, Bool.or_false,
            eq_comm (a := right.toTyped)]
          cases decide (left.toTyped = right.toTyped) <;> simp

theorem isValid_of_equal {r : Registry σ} {a b : TypedLiteral} (hequal : (r.equal a b).value) :
    (r.isValid a.uri a.lexicalValue).value ∧ (r.isValid b.uri b.lexicalValue).value := by
  rw [value_equal] at hequal
  rw [value_isValid, value_isValid]
  cases ha : (r.parse a.uri a.lexicalValue).value with
  | error e => simp [ha] at hequal
  | ok left =>
      cases hb : (r.parse b.uri b.lexicalValue).value with
      | error e => simp [ha, hb] at hequal
      | ok right => exact ⟨rfl, rfl⟩

/-- The other registry has the same datatypes, except that the one under the URI has a
rule for equality of its own. -/
def Rewords (r other : Registry σ) (uri : String) (rule : TypedLiteral → TypedLiteral → Bool) :
    Prop :=
  ∀ key, other.get? key = if key = uri then (r.get? key).map (·.withEquality rule) else r.get? key

/-- In one direction the rule of the second literal's datatype is not asked for. -/
theorem value_equal_of_rewords {r other : Registry σ} {a b : TypedLiteral}
    {rule : TypedLiteral → TypedLiteral → Bool} (hrewords : r.Rewords other b.uri rule)
    (hone : r.settings.bidirectionalEquality = false)
    (hother : other.settings.bidirectionalEquality = false) (hne : a.uri ≠ b.uri) :
    (other.equal a b).value = (r.equal a b).value := by
  have hleft : (other.parse a.uri a.lexicalValue).value = (r.parse a.uri a.lexicalValue).value := by
    rw [value_parse, value_parse, hrewords a.uri, if_neg hne]
  rw [value_equal, value_equal, hleft, hone, hother, value_parse other, value_parse r b.uri,
    hrewords b.uri, if_pos rfl]
  cases (r.parse a.uri a.lexicalValue).value with
  | error e => rfl
  | ok left =>
      cases r.get? b.uri with
      | none => rfl
      | some d =>
          -- Another rule for equality leaves the URI and the legality rule as they are.
          simp only [Option.map_some, Datatype.withEquality]
          by_cases hlegal : d.descriptor.isLegal b.lexicalValue
          · simp only [if_pos hlegal, Bool.false_and]
            rfl
          · simp only [if_neg hlegal]

/-- What comparing in both directions, with the first registry, makes of comparing in one,
with the second. -/
structure SymmetricClosure (both one : Registry σ) : Prop where
  equal_eq_or : ∀ a b, (both.equal a b).value = ((one.equal a b).value || (one.equal b a).value)
  equal_comm : ∀ a b, (both.equal a b).value = (both.equal b a).value
  /-- A literal equals itself exactly if it is valid. The rule for equality is not asked. -/
  both_self : ∀ a, (both.equal a a).value = (both.isValid a.uri a.lexicalValue).value
  one_self : ∀ a, (one.equal a a).value = (one.isValid a.uri a.lexicalValue).value
  /-- Literals are unequal as soon as one of them, in whichever place, does not construct. -/
  isValid_of_both : ∀ a b, (both.equal a b).value →
    (both.isValid a.uri a.lexicalValue).value ∧ (both.isValid b.uri b.lexicalValue).value
  isValid_of_one : ∀ a b, (one.equal a b).value →
    (one.isValid a.uri a.lexicalValue).value ∧ (one.isValid b.uri b.lexicalValue).value
  /-- In one direction, and between two datatypes, the second may have any rule for equality. -/
  one_of_rewords : ∀ (other : Registry σ) a b rule, a.uri ≠ b.uri →
    one.Rewords other b.uri rule → other.settings = one.settings →
      (other.equal a b).value = (one.equal a b).value

theorem symmetricClosure (r : Registry σ) :
    SymmetricClosure (r.directed true) (r.directed false) where
  equal_eq_or := r.value_equal_directed
  equal_comm a b := by
    rw [value_equal_directed, value_equal_directed, Bool.or_comm]
  both_self := (r.directed true).value_equal_self
  one_self := (r.directed false).value_equal_self
  isValid_of_both _ _ := isValid_of_equal
  isValid_of_one _ _ := isValid_of_equal
  one_of_rewords other a b rule hne hrewords hsettings := by
    have hone : other.settings.bidirectionalEquality = false := by
      rw [hsettings]
      rfl
    exact value_equal_of_rewords hrewords rfl hone hne

/-- The same run is put to two registries that differ in the setting for comparisons and in
nothing else. Every request that is not a comparison is answered alike, with the same
journal, and the registries that are reached differ in the setting only. Comparisons in
both directions are then the symmetric closure of those in one. -/
theorem both_directions_close_one (r : Registry σ) (requests : List Request) :
    let both := (r.directed true).run requests
    let one := (r.directed false).run requests
    (∀ (i : Nat) (request : Request), requests[i]? = some request →
      request.isComparison = false → both.1[i]? = one.1[i]?) ∧
    both.2 = one.2.directed true ∧ SymmetricClosure both.2 one.2 := by
  intro both one
  have hboth : both.2 = (r.run requests).2.directed true := r.registry_run_directed true requests
  have hone : one.2 = (r.run requests).2.directed false := r.registry_run_directed false requests
  refine ⟨?_, ?_, ?_⟩
  · intro i request hrequest hother
    calc both.1[i]? = (r.run requests).1[i]? := r.run_directed_getElem? true hrequest hother
      _ = one.1[i]? := (r.run_directed_getElem? false hrequest hother).symm
  · rw [hboth, hone]
    rfl
  · rw [hboth, hone]
    exact (r.run requests).2.symmetricClosure

/-- Digits know of the words for them, but words know of nothing. Both ways round they are
equal only if both directions count. -/
theorem both_directions_close_one_digit_word :
    let digit := Offer.fixed "urn:digit"
      { isLegal := (· == "1"), equals := fun _ other => other.lexicalValue == "one" }
    let word := Offer.fixed "urn:word" { isLegal := (· == "one"), equals := fun _ _ => false }
    let requests := [Request.register digit, .register word]
    let both := ((⟨∅, {}⟩ : Registry OrderedStore).directed true).run requests
    let one := ((⟨∅, {}⟩ : Registry OrderedStore).directed false).run requests
    let a : TypedLiteral := ⟨"urn:digit", "1"⟩
    let b : TypedLiteral := ⟨"urn:word", "one"⟩
    ((one.2.equal a b).value = true ∧ (one.2.equal b a).value = false) ∧
      both.1[1]? = one.1[1]? ∧ (both.2.equal b a).value = true := by
  intro digit word requests both one a b
  obtain ⟨hanswers, -, hclosure⟩ :=
    both_directions_close_one (⟨∅, {}⟩ : Registry OrderedStore) requests
  have hforth : (one.2.equal a b).value = true := by decide +kernel
  have hback : (one.2.equal b a).value = false := by decide +kernel
  refine ⟨⟨hforth, hback⟩, hanswers 1 (.register word) rfl rfl, ?_⟩
  rw [hclosure.equal_eq_or, hback, hforth, Bool.false_or]

end Registry

end Datatypes
