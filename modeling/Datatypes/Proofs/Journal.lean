import Datatypes.Journal

/-! # Laws of the journal

Operations are put one after the other by appending their journals, so how they are
grouped makes no difference, and a datatype is consulted by the whole only if one of
the parts consults it.
-/

namespace Datatypes.Recorded

theorem eq_of_value_of_journal {α : Type} {first second : Recorded α}
    (hvalue : first.value = second.value) (hjournal : first.journal = second.journal) :
    first = second := by
  cases first
  cases second
  rw [Recorded.mk.injEq]
  exact ⟨hvalue, hjournal⟩

instance : LawfulMonad Recorded :=
  .mk' Recorded
    (fun result => eq_of_value_of_journal rfl (journal_map id result))
    (fun _ _ => rfl)
    (fun _ _ _ => eq_of_value_of_journal rfl (List.append_assoc _ _ _))

variable {α β : Type}

/-- Every datatype that is consulted satisfies a predicate. -/
def OnlyConsults (result : Recorded α) (allowed : Datatype → Prop) : Prop :=
  ∀ consultation ∈ result.consultations, allowed consultation.1

namespace OnlyConsults

variable {allowed : Datatype → Prop}

theorem pure (a : α) : (Pure.pure a : Recorded α).OnlyConsults allowed := by
  intro consultation hmem
  cases hmem

theorem log (event : Event) : (Recorded.log event).OnlyConsults allowed := by
  intro consultation hmem
  cases hmem

theorem consult {datatype : Datatype} (hallowed : allowed datatype) (question : Question) :
    (Recorded.consult datatype question).OnlyConsults allowed := by
  intro consultation hmem
  rw [List.mem_singleton.mp hmem]
  exact hallowed

theorem bind {first : Recorded α} {rest : α → Recorded β} (hfirst : first.OnlyConsults allowed)
    (hrest : (rest first.value).OnlyConsults allowed) :
    (first >>= rest).OnlyConsults allowed := by
  intro consultation hmem
  rw [consultations, journal_bind, List.filterMap_append, List.mem_append] at hmem
  rcases hmem with hmem | hmem
  · exact hfirst consultation hmem
  · exact hrest consultation hmem

theorem map {result : Recorded α} (hresult : result.OnlyConsults allowed) (f : α → β) :
    (f <$> result).OnlyConsults allowed := by
  intro consultation hmem
  rw [consultations, journal_map] at hmem
  exact hresult consultation hmem

end OnlyConsults

theorem consultations_bind (first : Recorded α) (rest : α → Recorded β) :
    (first >>= rest).consultations = first.consultations ++ (rest first.value).consultations :=
  List.filterMap_append

theorem consultations_map (f : α → β) (result : Recorded α) :
    (f <$> result).consultations = result.consultations := by
  rw [consultations, journal_map, consultations]

@[simp] theorem events_pure (a : α) : (pure a : Recorded α).events = [] := rfl

@[simp] theorem events_log (event : Event) : (log event).events = [event] := rfl

theorem events_bind (first : Recorded α) (rest : α → Recorded β) :
    (first >>= rest).events = first.events ++ (rest first.value).events :=
  List.filterMap_append

theorem events_map (f : α → β) (result : Recorded α) : (f <$> result).events = result.events := by
  rw [events, journal_map, events]

theorem OnlyConsults.consultations_eq_nil {result : Recorded α}
    (hnone : result.OnlyConsults fun _ => False) : result.consultations = [] :=
  List.eq_nil_iff_forall_not_mem.mpr hnone

/-- Each consultation of an operation meets a condition on the consultations before it, to
which those count that were made before the operation. -/
def AsksInTurn (result : Recorded α)
    (allowed : List (Datatype × Question) → Datatype × Question → Prop)
    (earlier : List (Datatype × Question)) : Prop :=
  ∀ before consultation after, result.consultations = before ++ consultation :: after →
    allowed (earlier ++ before) consultation

namespace AsksInTurn

variable {allowed : List (Datatype × Question) → Datatype × Question → Prop}
  {earlier : List (Datatype × Question)}

theorem of_consultations_eq_nil {result : Recorded α} (hnil : result.consultations = []) :
    result.AsksInTurn allowed earlier := by
  intro before consultation after hsplit
  rw [hnil] at hsplit
  exact absurd hsplit.symm (List.append_ne_nil_of_right_ne_nil before (List.cons_ne_nil _ _))

/-- An operation that consults nothing meets every condition. -/
theorem of_none {result : Recorded α} (hnone : result.OnlyConsults fun _ => False) :
    result.AsksInTurn allowed earlier :=
  of_consultations_eq_nil hnone.consultations_eq_nil

theorem pure (a : α) : (Pure.pure a : Recorded α).AsksInTurn allowed earlier :=
  of_consultations_eq_nil rfl

theorem log (event : Event) : (Recorded.log event).AsksInTurn allowed earlier :=
  of_consultations_eq_nil rfl

theorem consult {datatype : Datatype} {question : Question}
    (hallowed : allowed earlier (datatype, question)) :
    (Recorded.consult datatype question).AsksInTurn allowed earlier := by
  intro before consultation after hsplit
  rcases List.append_eq_singleton_iff.mp hsplit.symm with ⟨rfl, hcons⟩ | ⟨-, hnil⟩
  · injection hcons with hconsultation
    rw [List.append_nil, hconsultation]
    exact hallowed
  · exact absurd hnil (List.cons_ne_nil _ _)

theorem bind {first : Recorded α} {rest : α → Recorded β}
    (hfirst : first.AsksInTurn allowed earlier)
    (hrest : (rest first.value).AsksInTurn allowed (earlier ++ first.consultations)) :
    (first >>= rest).AsksInTurn allowed earlier := by
  intro before consultation after hsplit
  rw [consultations_bind] at hsplit
  rcases List.append_eq_append_iff.mp hsplit with ⟨within, rfl, hlater⟩ | ⟨tail, hearlier, htail⟩
  · rw [← List.append_assoc]
    exact hrest within consultation after hlater
  · cases tail with
    | nil =>
        rw [List.append_nil] at hearlier
        have hlater := hrest [] consultation after htail.symm
        rw [List.append_nil, hearlier] at hlater
        exact hlater
    | cons head tail =>
        injection htail with hhead
        rw [← hhead] at hearlier
        exact hfirst before consultation tail hearlier

theorem map {result : Recorded α} (hresult : result.AsksInTurn allowed earlier) (f : α → β) :
    (f <$> result).AsksInTurn allowed earlier := by
  intro before consultation after hsplit
  rw [consultations_map] at hsplit
  exact hresult before consultation after hsplit

/-- A condition that does not look at what came before is met by every consultation. -/
theorem of_mem {result : Recorded α} {holds : Datatype × Question → Prop}
    (hresult : result.AsksInTurn (fun _ consultation => holds consultation) [])
    {consultation : Datatype × Question} (hmem : consultation ∈ result.consultations) :
    holds consultation := by
  obtain ⟨before, after, hsplit⟩ := List.append_of_mem hmem
  exact hresult before consultation after hsplit

end AsksInTurn

/-- Two operations on systems of two kinds have the same result and the same journal, and
leave the systems related. -/
structure Parallel {ρ ρ' : Type} (related : ρ → ρ' → Prop) (first : Recorded (α × ρ))
    (second : Recorded (α × ρ')) : Prop where
  result : second.value.1 = first.value.1
  journal : second.journal = first.journal
  related : related first.value.2 second.value.2

namespace Parallel

variable {ρ ρ' : Type} {related : ρ → ρ' → Prop}

theorem pure (a : α) {s : ρ} {s' : ρ'} (hrelated : related s s') :
    Parallel related (Pure.pure (a, s)) (Pure.pure (a, s')) :=
  ⟨rfl, rfl, hrelated⟩

theorem bind {first : Recorded (α × ρ)} {second : Recorded (α × ρ')}
    {rest : α × ρ → Recorded (β × ρ)} {rest' : α × ρ' → Recorded (β × ρ')}
    (hfirst : Parallel related first second)
    (hrest : ∀ a s s', related s s' → Parallel related (rest (a, s)) (rest' (a, s'))) :
    Parallel related (first >>= rest) (second >>= rest') := by
  have hlater := hrest first.value.1 first.value.2 second.value.2 hfirst.related
  have hvalue : second.value = (first.value.1, second.value.2) := Prod.ext hfirst.result rfl
  rw [← hvalue] at hlater
  refine ⟨hlater.result, ?_, hlater.related⟩
  rw [journal_bind, journal_bind, hfirst.journal, hlater.journal]

theorem map {first : Recorded (α × ρ)} {second : Recorded (α × ρ')}
    (hfirst : Parallel related first second) (f : α → β) :
    Parallel related ((fun left => (f left.1, left.2)) <$> first)
      ((fun left => (f left.1, left.2)) <$> second) :=
  hfirst.bind fun a _ _ hrelated => .pure (f a) hrelated

end Parallel

end Datatypes.Recorded
