import Datatypes.Proofs.Json.Members
import Datatypes.Settings.Section
import Mathlib.Tactic.MkIffOfInductiveProp

/-! # The section with the settings

The members of an object are visited in the order of their keys. The first one at fault ends the
reading; without a fault each setting is what stands under its key, or what it was before. A
section that is found in the layers is the one that is read, and if none is found there are the
defaults.
-/

namespace Datatypes.Settings

open SectionError (sectionPath)

/-- The keys that a section may have. -/
def knownKeys : List String :=
  [bidirectionalEqualityKey, preregisterBuiltinKey]

theorem mem_knownKeys (key : String) :
    key ∈ knownKeys ↔ key = bidirectionalEqualityKey ∨ key = preregisterBuiltinKey := by
  simp [knownKeys]

/-- What is wrong with a member of a section, if anything is. -/
def memberFault? (member : String × Json) : Option SectionError :=
  if member.1 ∈ knownKeys then
    match member.2 with
    | .bool _ => none
    | found => some (.notBool member.1 found)
  else
    some (.unknownField member.1)

theorem memberFault?_eq_none_iff (member : String × Json) :
    memberFault? member = none ↔ member.1 ∈ knownKeys ∧ ∃ b, member.2 = .bool b := by
  unfold memberFault?
  by_cases hknown : member.1 ∈ knownKeys
  · rw [if_pos hknown]
    cases member.2 <;> simp [hknown]
  · simp [hknown]

/-! ## What the members put into the settings -/

/-- The truth value that is found, or another one for want of any. -/
def truthOr (default : Bool) : Option Json → Bool
  | some (.bool b) => b
  | _ => default

theorem truthOr_eq_iff {found : Option Json} (hbool : ∀ value ∈ found, ∃ b, value = .bool b)
    (default b : Bool) :
    truthOr default found = b ↔ found.getD (.bool default) = .bool b := by
  cases found with
  | none => simp [truthOr]
  | some value =>
      obtain ⟨b', rfl⟩ := hbool value rfl
      simp [truthOr]

/-- Settings with the members of a section put into them. -/
def withMembers (s : Settings) (members : List (String × Json)) : Settings where
  bidirectionalEquality :=
    truthOr s.bidirectionalEquality (members.lookup bidirectionalEqualityKey)
  preregisterBuiltin := truthOr s.preregisterBuiltin (members.lookup preregisterBuiltinKey)

/-- One member more, if no other one has its key. -/
theorem withMembers_cons (s : Settings) {member : String × Json} {rest : List (String × Json)}
    (hrest : rest.lookup member.1 = none) :
    (s.withMembers [member]).withMembers rest = s.withMembers (member :: rest) := by
  have hsetting (key : String) (default : Bool) :
      truthOr (truthOr default ([member].lookup key)) (rest.lookup key) =
        truthOr default ((member :: rest).lookup key) := by
    rw [Json.lookup_cons, Json.lookup_cons]
    by_cases heq : key = member.1
    · rw [if_pos heq, if_pos heq, heq, hrest]
      rfl
    · rw [if_neg heq, if_neg heq]
      rfl
  simp only [withMembers, hsetting]

/-! ## Reading the members -/

theorem setMember_of_fault {key : String} {value : Json} {e : SectionError}
    (hfault : memberFault? (key, value) = some e) (s : Settings) :
    s.setMember key value = .error e := by
  unfold memberFault? at hfault
  split at hfault
  next hknown =>
    have hread : readBool key value = .error e := by
      cases value <;> simp_all [readBool]
    rcases (mem_knownKeys key).mp hknown with rfl | rfl
    · rw [setMember, if_pos rfl, hread]
      rfl
    · rw [setMember, if_neg (by decide), if_pos rfl, hread]
      rfl
  next hunknown =>
    obtain ⟨hfirst, hsecond⟩ := not_or.mp (mt (mem_knownKeys key).mpr hunknown)
    cases hfault
    rw [setMember, if_neg hfirst, if_neg hsecond]
    rfl

theorem setMember_of_faultless {key : String} {value : Json}
    (hfaultless : memberFault? (key, value) = none) (s : Settings) :
    s.setMember key value = .ok (s.withMembers [(key, value)]) := by
  obtain ⟨hknown, b, rfl⟩ := (memberFault?_eq_none_iff (key, value)).mp hfaultless
  rcases (mem_knownKeys key).mp hknown with rfl | rfl
  · rfl
  · rfl

/-- Reading the members of an ascending list. No key stands twice in it, so what a member puts
into the settings is not replaced by a later one. -/
theorem foldlM_setMember {members : List (String × Json)}
    (hascending : members.Pairwise (·.1 < ·.1)) (s : Settings) :
    members.foldlM (fun s member => s.setMember member.1 member.2) s =
      match members.findSome? memberFault? with
      | some e => .error e
      | none => .ok (s.withMembers members) := by
  induction members generalizing s with
  | nil => rfl
  | cons member rest ih =>
      obtain ⟨hmember, hrest⟩ := List.pairwise_cons.mp hascending
      rw [List.foldlM_cons, List.findSome?_cons]
      cases hfault : memberFault? member with
      | some e =>
          rw [setMember_of_fault hfault]
          rfl
      | none =>
          have hlookup : rest.lookup member.1 = none := List.lookup_eq_none_iff.mpr
            fun other hother => bne_iff_ne.mpr (Std.ne_of_lt (hmember other hother))
          rw [setMember_of_faultless hfault, ← withMembers_cons s hlookup]
          exact ih hrest _

theorem ofSection_object (members : List (String × Json)) :
    ofSection (.object members) =
      match (Json.sortMembers members).findSome? memberFault? with
      | some e => .error e
      | none => .ok (withMembers {} members) := by
  have hread := foldlM_setMember (Json.ascending_sortMembers members) {}
  rw [ofSection, hread]
  simp only [withMembers, Json.lookup_sortMembers]

/-- Without a fault every key is known and every value is a truth value. -/
theorem findSome?_memberFault?_eq_none_iff (members : List (String × Json)) :
    (Json.sortMembers members).findSome? memberFault? = none ↔
      ∀ key value, members.lookup key = some value →
        key ∈ knownKeys ∧ ∃ b, value = .bool b := by
  rw [List.findSome?_eq_none_iff, Prod.forall]
  refine forall₂_congr fun key value => ?_
  rw [Json.mem_sortMembers_iff, memberFault?_eq_none_iff]

/-! ## What a section says -/

/-- With these values under its keys a section reads as these settings: it has no other keys, and
the value of each setting, its default for want of any, is the truth value that it gets. -/
@[mk_iff]
structure ReadsAs (found : String → Option Json) (s : Settings) : Prop where
  known : ∀ key, (found key).isSome → key ∈ knownKeys
  bidirectionalEquality :
    (found bidirectionalEqualityKey).getD (.bool true) = .bool s.bidirectionalEquality
  preregisterBuiltin :
    (found preregisterBuiltinKey).getD (.bool false) = .bool s.preregisterBuiltin

theorem exists_readsAs_iff (found : String → Option Json) :
    (∃ s, ReadsAs found s) ↔
      (∀ key, (found key).isSome → key ∈ knownKeys) ∧
      ∀ key ∈ knownKeys, ∀ value, found key = some value → ∃ b, value = .bool b := by
  have hsetting (key : String) (default : Bool) :
      (∃ b, (found key).getD (.bool default) = .bool b) ↔
        ∀ value, found key = some value → ∃ b, value = .bool b := by
    cases found key <;> simp
  constructor
  · rintro ⟨s, hknown, hfirst, hsecond⟩
    refine ⟨hknown, fun key hkey => ?_⟩
    rcases (mem_knownKeys key).mp hkey with rfl | rfl
    · exact (hsetting _ true).mp ⟨_, hfirst⟩
    · exact (hsetting _ false).mp ⟨_, hsecond⟩
  · rintro ⟨hknown, hvalues⟩
    obtain ⟨first, hfirst⟩ := (hsetting bidirectionalEqualityKey true).mpr
      (hvalues _ ((mem_knownKeys _).mpr (.inl rfl)))
    obtain ⟨second, hsecond⟩ := (hsetting preregisterBuiltinKey false).mpr
      (hvalues _ ((mem_knownKeys _).mpr (.inr rfl)))
    exact ⟨⟨first, second⟩, hknown, hfirst, hsecond⟩

theorem ofSection_object_eq_ok_iff (members : List (String × Json)) (s : Settings) :
    ofSection (.object members) = .ok s ↔ ReadsAs (fun key => members.lookup key) s := by
  have hfaultless := findSome?_memberFault?_eq_none_iff members
  rw [ofSection_object]
  cases hfault : (Json.sortMembers members).findSome? memberFault? with
  | some e =>
      refine iff_of_false nofun ?_
      intro hreads
      obtain ⟨hknown, hvalues⟩ := (exists_readsAs_iff _).mp ⟨s, hreads⟩
      refine Option.some_ne_none e (hfault ▸ hfaultless.mpr ?_)
      intro key value hlookup
      have hkey : key ∈ knownKeys := hknown key (Option.isSome_of_eq_some hlookup)
      exact ⟨hkey, hvalues key hkey value hlookup⟩
  | none =>
      have hmembers := hfaultless.mp hfault
      have hbool (key : String) : ∀ value ∈ members.lookup key, ∃ b, value = .bool b :=
        fun value hvalue => (hmembers key value hvalue).2
      have hfirst := truthOr_eq_iff (hbool bidirectionalEqualityKey) true s.bidirectionalEquality
      have hsecond := truthOr_eq_iff (hbool preregisterBuiltinKey) false s.preregisterBuiltin
      constructor
      · intro hread
        cases hread
        refine ⟨?_, hfirst.mp rfl, hsecond.mp rfl⟩
        intro key hsome
        obtain ⟨value, hlookup⟩ := Option.isSome_iff_exists.mp hsome
        exact (hmembers key value hlookup).1
      · intro hreads
        exact congrArg Except.ok (congr (congrArg mk (hfirst.mpr hreads.bidirectionalEquality))
          (hsecond.mpr hreads.preregisterBuiltin))

/-! ## Looking up the section -/

theorem ofLayers_of_found {layers : List Json} {found : Json}
    (hfound : Json.lookupLayers? layers sectionPath = some found) :
    ofLayers layers = ofSection found := by
  have hcontains : Json.layersContain layers sectionPath := by
    rw [Json.layersContain, hfound]
    rfl
  rw [ofLayers, dif_pos hcontains]
  simp only [hfound, Option.get_some]

theorem ofLayers_of_not_found {layers : List Json}
    (hfound : Json.lookupLayers? layers sectionPath = none) : ofLayers layers = .ok {} := by
  have hcontains : ¬ Json.layersContain layers sectionPath := by
    rw [Json.layersContain, hfound]
    exact Bool.false_ne_true
  rw [ofLayers, dif_neg hcontains]

/-- What is read from one tree: its section, or the defaults if it has none. -/
def ofTree (tree : Json) : Except SectionError Settings :=
  (tree.path? sectionPath).elim (.ok {}) ofSection

/-- Layers that can be merged are read as the one tree that they make. -/
theorem ofLayers_eq_ofTree {layers : List Json} {tree : Json}
    (hmerged : Json.mergeLayers? layers = some tree) : ofLayers layers = ofTree tree := by
  have hlookup : Json.lookupLayers? layers sectionPath = tree.path? sectionPath := by
    rw [Json.lookupLayers?, hmerged, Option.bind_some]
  rw [ofTree]
  cases hfound : tree.path? sectionPath with
  | some found => exact ofLayers_of_found (hlookup.trans hfound)
  | none => exact ofLayers_of_not_found (hlookup.trans hfound)

/-- The lookup fails in layers that cannot be merged, and is taken for the lack of a section. -/
theorem ofLayers_of_not_merged {layers : List Json}
    (hmerged : Json.mergeLayers? layers = none) : ofLayers layers = .ok {} := by
  apply ofLayers_of_not_found
  rw [Json.lookupLayers?, hmerged, Option.bind_none]

end Datatypes.Settings
