import Datatypes.Json.Value

/-! # Members of an object

Putting a member into a list changes what is found under its key and nothing else. Sorting puts
in one member after the other, so the sorted list holds what the object holds, each key once.
-/

namespace Datatypes.Json

theorem lookup_cons (member : String × Json) (rest : List (String × Json)) (key : String) :
    (member :: rest).lookup key = if key = member.1 then some member.2 else rest.lookup key := by
  rw [List.lookup_cons]
  by_cases heq : key = member.1
  · rw [if_pos heq, beq_iff_eq.mpr heq]
  · rw [if_neg heq, beq_eq_false_iff_ne.mpr heq]

theorem lookup_put (key : String) (value : Json) (members : List (String × Json))
    (other : String) :
    (put key value members).lookup other =
      if other = key then some value else members.lookup other := by
  induction members with
  | nil => exact lookup_cons (key, value) [] other
  | cons member rest ih =>
      unfold put
      split
      next hlt => exact lookup_cons (key, value) (member :: rest) other
      next hnot =>
        split
        next heq =>
          rw [lookup_cons, lookup_cons]
          by_cases hother : other = key <;> simp [hother, ← heq]
        next hne =>
          rw [lookup_cons, lookup_cons, ih]
          by_cases hother : other = member.1
          · have hkey : other ≠ key := fun hkey => hne (hkey.symm.trans hother)
            rw [if_pos hother, if_neg hkey, if_pos hother]
          · rw [if_neg hother, if_neg hother]

theorem lookup_sortMembers (members : List (String × Json)) (key : String) :
    (sortMembers members).lookup key = members.lookup key := by
  induction members with
  | nil => rfl
  | cons member rest ih =>
      change (put member.1 member.2 (sortMembers rest)).lookup key = _
      rw [lookup_put, lookup_cons, ih]

theorem mem_put {key : String} {value : Json} {members : List (String × Json)}
    {member : String × Json} (hmem : member ∈ put key value members) :
    member = (key, value) ∨ member ∈ members := by
  induction members with
  | nil => exact .inl (List.mem_singleton.mp hmem)
  | cons first rest ih =>
      unfold put at hmem
      split at hmem
      · exact List.mem_cons.mp hmem
      · split at hmem
        · exact (List.mem_cons.mp hmem).imp_right (List.mem_cons_of_mem first)
        · rcases List.mem_cons.mp hmem with rfl | hmem
          · exact .inr List.mem_cons_self
          · exact (ih hmem).imp_right (List.mem_cons_of_mem first)

theorem ascending_put (key : String) (value : Json) {members : List (String × Json)}
    (hascending : members.Pairwise (·.1 < ·.1)) :
    (put key value members).Pairwise (·.1 < ·.1) := by
  induction members with
  | nil => exact List.pairwise_singleton _ _
  | cons first rest ih =>
      obtain ⟨hfirst, hrest⟩ := List.pairwise_cons.mp hascending
      unfold put
      split
      next hlt =>
        refine .cons ?_ hascending
        intro member hmem
        rcases List.mem_cons.mp hmem with rfl | hmem
        · exact hlt
        · exact String.lt_trans hlt (hfirst member hmem)
      next hnot =>
        split
        next heq =>
          refine .cons ?_ hrest
          intro member hmem
          exact heq ▸ hfirst member hmem
        next hne =>
          have hlt : first.1 < key := Std.lt_of_le_of_ne (String.not_lt.mp hnot) (Ne.symm hne)
          refine .cons ?_ (ih hrest)
          intro member hmem
          rcases mem_put hmem with rfl | hmem
          · exact hlt
          · exact hfirst member hmem

/-- Sorting leaves each key once, in code point order. -/
theorem ascending_sortMembers (members : List (String × Json)) :
    (sortMembers members).Pairwise (·.1 < ·.1) := by
  induction members with
  | nil => exact .nil
  | cons member rest ih => exact ascending_put member.1 member.2 ih

/-- In an ascending list no member hides another one. -/
theorem lookup_eq_some_iff_mem {members : List (String × Json)}
    (hascending : members.Pairwise (·.1 < ·.1)) (key : String) (value : Json) :
    members.lookup key = some value ↔ (key, value) ∈ members := by
  rw [List.lookup_eq_some_iff]
  constructor
  · rintro ⟨earlier, later, rfl, -⟩
    exact List.mem_append_right earlier List.mem_cons_self
  · intro hmem
    obtain ⟨earlier, later, rfl⟩ := List.append_of_mem hmem
    refine ⟨earlier, later, rfl, ?_⟩
    intro member hearlier
    have hlt : member.1 < key :=
      (List.pairwise_append.mp hascending).2.2 member hearlier (key, value) List.mem_cons_self
    exact bne_iff_ne.mpr (Std.ne_of_lt hlt).symm

theorem mem_sortMembers_iff (members : List (String × Json)) (key : String) (value : Json) :
    (key, value) ∈ sortMembers members ↔ members.lookup key = some value := by
  rw [← lookup_eq_some_iff_mem (ascending_sortMembers members), lookup_sortMembers]

/-- In an ascending list the first hit is the one with the least key. -/
theorem findSome?_eq_some_iff_of_ascending {β : Type} {members : List (String × Json)}
    (hascending : members.Pairwise (·.1 < ·.1)) {f : String × Json → Option β} {b : β} :
    members.findSome? f = some b ↔ ∃ member ∈ members, f member = some b ∧
      ∀ other ∈ members, f other ≠ none → member.1 ≤ other.1 := by
  rw [List.findSome?_eq_some_iff]
  constructor
  · rintro ⟨earlier, member, later, rfl, hhit, hmiss⟩
    refine ⟨member, by simp, hhit, ?_⟩
    intro other hother hne
    rcases List.mem_append.mp hother with hearlier | hlater
    · exact absurd (hmiss other hearlier) hne
    · rcases List.mem_cons.mp hlater with rfl | hlater
      · exact String.le_refl _
      · have hrest := (List.pairwise_append.mp hascending).2.1
        exact Std.le_of_lt ((List.pairwise_cons.mp hrest).1 other hlater)
  · rintro ⟨member, hmem, hhit, hleast⟩
    obtain ⟨earlier, later, rfl⟩ := List.append_of_mem hmem
    refine ⟨earlier, member, later, rfl, hhit, ?_⟩
    intro other hearlier
    have hlt : other.1 < member.1 :=
      (List.pairwise_append.mp hascending).2.2 other hearlier member List.mem_cons_self
    cases hother : f other with
    | none => rfl
    | some b' =>
        have hle := hleast other (List.mem_append_left _ hearlier) (by simp [hother])
        exact absurd hle (String.not_le.mpr hlt)

end Datatypes.Json
