import Datatypes.Proofs.Json.Merge
import Datatypes.Proofs.Settings.Section
import Mathlib.Order.Bounds.Defs

/-! # Which sections can be read

A section is read if it is an object with nothing but truth values under known keys, or an array
that has truth values in the places of the settings as far as it goes. Any other object or array
has a first fault, at the least key or index of all that are at fault. This is the one that is
reported, and the path in the report tells its place.
-/

namespace Datatypes

/-! ## The place of a fault -/

namespace SectionError

/-- The key or the index that an error is about, unless it is about the section as a whole. -/
def place? : SectionError → Option String
  | notSection _ => none
  | unknownField key => some key
  | notBool place _ => some place

theorem path_of_no_place {e : SectionError} (hplace : e.place? = none) :
    e.path = "default.modules.datatype_registry.config" := by
  cases e with
  | notSection found => rfl
  | unknownField key => contradiction
  | notBool place found => contradiction

theorem path_of_place {e : SectionError} {place : String} (hplace : e.place? = some place) :
    e.path = "default." ++ place ++ ".modules.datatype_registry.config" := by
  cases e with
  | notSection found => contradiction
  | unknownField key | notBool key found =>
      obtain rfl := Option.some.inj hplace
      apply String.toList_inj.mp
      simp [path, sectionPath, Settings.moduleName]

/-- A path with a place is longer than one without. -/
theorem path_ne_of_place {e e' : SectionError} {place : String} (hplace : e.place? = some place)
    (hplace' : e'.place? = none) : e.path ≠ e'.path := by
  intro hpath
  have hlength := congrArg String.length hpath
  rw [path_of_place hplace, path_of_no_place hplace', String.length_append,
    String.length_append] at hlength
  have hfirst : "default.".length = 8 := rfl
  have hlast : ".modules.datatype_registry.config".length = 33 := rfl
  have hwhole : "default.modules.datatype_registry.config".length = 40 := rfl
  omega

/-- The path tells the place, or that there is none. With a place in both paths all that stands
around it is the same. -/
theorem place?_eq_of_path_eq {e e' : SectionError} (hpath : e.path = e'.path) :
    e.place? = e'.place? := by
  cases hplace : e.place? with
  | none =>
      cases hplace' : e'.place? with
      | none => rfl
      | some place' => exact absurd hpath.symm (path_ne_of_place hplace' hplace)
  | some place =>
      cases hplace' : e'.place? with
      | none => exact absurd hpath (path_ne_of_place hplace hplace')
      | some place' =>
          rw [path_of_place hplace, path_of_place hplace', String.append_left_inj,
            String.append_right_inj] at hpath
          rw [hpath]

/-- The report of an error shows a place: the path has it between two parts that are always the
same, and no error that is not about this place has the same path. -/
structure Names (e : SectionError) (place : String) : Prop where
  path_eq : e.path = "default." ++ place ++ ".modules.datatype_registry.config"
  place_eq : ∀ other : SectionError, other.path = e.path → other.place? = some place

theorem names_of_place {e : SectionError} {place : String} (hplace : e.place? = some place) :
    e.Names place where
  path_eq := path_of_place hplace
  place_eq _ hpath := (place?_eq_of_path_eq hpath).trans hplace

end SectionError

namespace Settings

open SectionError (sectionPath)

/-! ## What a section says, and what is wrong with it -/

/-- An object has an unknown key, or something else than a truth value under a known one. -/
def FaultyKey (members : List (String × Json)) (key : String) : Prop :=
  ∃ value, members.lookup key = some value ∧ ¬ (key ∈ knownKeys ∧ ∃ b, value = .bool b)

/-- An array has something else than a truth value in the place of a setting. -/
def FaultyIndex (items : List Json) (index : Nat) : Prop :=
  index < 2 ∧ ∃ value, items[index]? = some value ∧ ¬ ∃ b, value = .bool b

/-- A section is in good form and gives these settings. What it leaves out has its default. -/
inductive Gives : Json → Settings → Prop where
  | members {members : List (String × Json)} {s : Settings}
      (reads : ReadsAs (fun key => members.lookup key) s) : Gives (.object members) s
  | items {items : List Json} {s : Settings}
      (first : items[0]?.getD (.bool true) = .bool s.bidirectionalEquality)
      (second : items[1]?.getD (.bool false) = .bool s.preregisterBuiltin) :
      Gives (.array items) s

/-- The first thing that is wrong with a section. -/
inductive FirstFault : Json → SectionError → Prop where
  | unknownKey {members : List (String × Json)} {key : String}
      (least : IsLeast {key | FaultyKey members key} key) (unknown : key ∉ knownKeys) :
      FirstFault (.object members) (.unknownField key)
  | member {members : List (String × Json)} {key : String} {value : Json}
      (least : IsLeast {key | FaultyKey members key} key) (known : key ∈ knownKeys)
      (found : members.lookup key = some value) :
      FirstFault (.object members) (.notBool key value)
  | item {items : List Json} {index : Nat} {value : Json}
      (least : IsLeast {index | FaultyIndex items index} index)
      (found : items[index]? = some value) :
      FirstFault (.array items) (.notBool (toString index) value)
  | whole {found : Json} (notObject : ∀ members, found ≠ .object members)
      (notArray : ∀ items, found ≠ .array items) : FirstFault found (.notSection found)

/-! ## Objects -/

theorem memberFault?_eq_some_iff (key : String) (value : Json) (e : SectionError) :
    memberFault? (key, value) = some e ↔
      key ∉ knownKeys ∧ e = .unknownField key ∨
        key ∈ knownKeys ∧ (¬ ∃ b, value = .bool b) ∧ e = .notBool key value := by
  unfold memberFault?
  by_cases hknown : key ∈ knownKeys
  · cases value <;> simp [hknown, eq_comm]
  · simp [hknown, eq_comm]

theorem faultyKey_iff (members : List (String × Json)) (key : String) :
    FaultyKey members key ↔
      ∃ value, (key, value) ∈ Json.sortMembers members ∧ memberFault? (key, value) ≠ none := by
  simp only [FaultyKey, Json.mem_sortMembers_iff, ne_eq, memberFault?_eq_none_iff]

/-- The members are visited in the order of their keys, so the first fault is the one at the least
faulty key. -/
theorem findSome?_memberFault?_eq_some_iff (members : List (String × Json)) (e : SectionError) :
    (Json.sortMembers members).findSome? memberFault? = some e ↔
      ∃ key value, members.lookup key = some value ∧ memberFault? (key, value) = some e ∧
        IsLeast {key | FaultyKey members key} key := by
  rw [Json.findSome?_eq_some_iff_of_ascending (Json.ascending_sortMembers members)]
  constructor
  · rintro ⟨⟨key, value⟩, hmem, hfault, hleast⟩
    refine ⟨key, value, (Json.mem_sortMembers_iff members key value).mp hmem, hfault, ?_, ?_⟩
    · exact (faultyKey_iff members key).mpr ⟨value, hmem, by simp [hfault]⟩
    · intro other hother
      obtain ⟨value', hmem', hfault'⟩ := (faultyKey_iff members other).mp hother
      exact hleast (other, value') hmem' hfault'
  · rintro ⟨key, value, hlookup, hfault, -, hleast⟩
    refine ⟨(key, value), (Json.mem_sortMembers_iff members key value).mpr hlookup, hfault, ?_⟩
    rintro ⟨other, value'⟩ hmem' hfault'
    exact hleast ((faultyKey_iff members other).mpr ⟨value', hmem', hfault'⟩)

theorem ofSection_object_eq_error_iff (members : List (String × Json)) (e : SectionError) :
    ofSection (.object members) = .error e ↔ FirstFault (.object members) e := by
  have hfirst : ofSection (.object members) = .error e ↔
      (Json.sortMembers members).findSome? memberFault? = some e := by
    rw [ofSection_object]
    cases (Json.sortMembers members).findSome? memberFault? <;> simp
  rw [hfirst, findSome?_memberFault?_eq_some_iff]
  constructor
  · rintro ⟨key, value, hlookup, hfault, hleast⟩
    rcases (memberFault?_eq_some_iff key value e).mp hfault with
      ⟨hunknown, rfl⟩ | ⟨hknown, -, rfl⟩
    · exact .unknownKey hleast hunknown
    · exact .member hleast hknown hlookup
  · intro hfault
    cases hfault with
    | unknownKey hleast hunknown =>
        obtain ⟨value, hlookup, -⟩ := hleast.1
        refine ⟨_, value, hlookup, ?_, hleast⟩
        exact (memberFault?_eq_some_iff _ value _).mpr (.inl ⟨hunknown, rfl⟩)
    | @member _ key value hleast hknown hlookup =>
        obtain ⟨value', hlookup', hfaulty⟩ := hleast.1
        obtain rfl := Option.some.inj (hlookup.symm.trans hlookup')
        refine ⟨key, value, hlookup, ?_, hleast⟩
        have hother : ¬ ∃ b, value = .bool b := fun hbool => hfaulty ⟨hknown, hbool⟩
        exact (memberFault?_eq_some_iff key value _).mpr (.inr ⟨hknown, hother, rfl⟩)
    | whole hobject => exact absurd rfl (hobject members)

/-! ## Arrays -/

theorem readBool_eq_ok_iff (place : String) (value : Json) (b : Bool) :
    readBool place value = .ok b ↔ value = .bool b := by
  cases value <;> simp [readBool]

theorem readBool_eq_error_iff (place : String) (value : Json) (e : SectionError) :
    readBool place value = .error e ↔ (¬ ∃ b, value = .bool b) ∧ e = .notBool place value := by
  cases value <;> simp [readBool, eq_comm]

theorem exists_bool_of_not_faultyIndex {items : List Json} {index : Nat} (hlt : index < 2)
    (hfaultless : ¬ FaultyIndex items index) (default : Bool) :
    ∃ b, items[index]?.getD (.bool default) = .bool b := by
  cases hitem : items[index]? with
  | none => exact ⟨default, rfl⟩
  | some value => exact Classical.not_not.mp fun hother => hfaultless ⟨hlt, value, hitem, hother⟩

/-- What is read of an item that may be missing. -/
def itemOr (default : Bool) (place : String) : Option Json → Except SectionError Bool
  | some value => readBool place value
  | none => .ok default

theorem itemOr_eq_ok_iff (default : Bool) (place : String) (item? : Option Json) (b : Bool) :
    itemOr default place item? = .ok b ↔ item?.getD (.bool default) = .bool b := by
  cases item? <;> simp [itemOr, readBool_eq_ok_iff]

theorem itemOr_eq_error_iff (default : Bool) (place : String) (item? : Option Json)
    (e : SectionError) :
    itemOr default place item? = .error e ↔
      ∃ value, item? = some value ∧ (¬ ∃ b, value = .bool b) ∧ e = .notBool place value := by
  cases item? <;> simp [itemOr, readBool_eq_error_iff]

/-- Both settings are read in the same way, one after the other. -/
theorem ofItems_eq (items : List Json) :
    ofItems items = do
      let bidirectionalEquality ← itemOr true "0" items[0]?
      let preregisterBuiltin ← itemOr false "1" items[1]?
      return { bidirectionalEquality, preregisterBuiltin } := by
  match items with
  | [] => rfl
  | [first] => rfl
  | first :: second :: rest => rfl

theorem ofItems_eq_ok_iff (items : List Json) (s : Settings) :
    ofItems items = .ok s ↔ itemOr true "0" items[0]? = .ok s.bidirectionalEquality ∧
      itemOr false "1" items[1]? = .ok s.preregisterBuiltin := by
  rw [ofItems_eq]
  cases itemOr true "0" items[0]? with
  | error e => exact iff_of_false nofun (fun hboth => nomatch hboth.1)
  | ok first =>
      cases itemOr false "1" items[1]? with
      | error e => exact iff_of_false nofun (fun hboth => nomatch hboth.2)
      | ok second =>
          change Except.ok (Settings.mk first second) = .ok s ↔ _
          cases s
          simp

theorem ofItems_eq_error_iff (items : List Json) (e : SectionError) :
    ofItems items = .error e ↔ itemOr true "0" items[0]? = .error e ∨
      (∃ b, itemOr true "0" items[0]? = .ok b) ∧ itemOr false "1" items[1]? = .error e := by
  rw [ofItems_eq]
  cases itemOr true "0" items[0]? with
  | error e' =>
      change Except.error e' = .error e ↔ _
      simp
  | ok first =>
      cases itemOr false "1" items[1]? with
      | error e' =>
          change Except.error e' = .error e ↔ _
          simp
      | ok second =>
          change Except.ok (Settings.mk first second) = .error e ↔ _
          simp

theorem ofSection_array_eq_ok_iff (items : List Json) (s : Settings) :
    ofSection (.array items) = .ok s ↔ Gives (.array items) s := by
  change ofItems items = .ok s ↔ _
  rw [ofItems_eq_ok_iff, itemOr_eq_ok_iff, itemOr_eq_ok_iff]
  constructor
  · rintro ⟨hfirst, hsecond⟩
    exact .items hfirst hsecond
  · intro hgives
    cases hgives with
    | items hfirst hsecond => exact ⟨hfirst, hsecond⟩

theorem ofSection_array_eq_error_iff (items : List Json) (e : SectionError) :
    ofSection (.array items) = .error e ↔ FirstFault (.array items) e := by
  change ofItems items = .error e ↔ _
  simp only [ofItems_eq_error_iff, itemOr_eq_error_iff, itemOr_eq_ok_iff]
  constructor
  · rintro (⟨value, hfound, hother, rfl⟩ | ⟨⟨b, hfirst⟩, value, hfound, hother, rfl⟩)
    · have hfaulty : FaultyIndex items 0 := ⟨by omega, value, hfound, hother⟩
      exact .item ⟨hfaulty, fun _ _ => Nat.zero_le _⟩ hfound
    · have hfaulty : FaultyIndex items 1 := ⟨by omega, value, hfound, hother⟩
      refine .item ⟨hfaulty, ?_⟩ hfound
      rintro index ⟨-, value', hfound', hother'⟩
      -- The first setting has been read, so there is no fault at index 0.
      apply Nat.one_le_iff_ne_zero.mpr
      rintro rfl
      rw [hfound', Option.getD_some] at hfirst
      exact hother' ⟨b, hfirst⟩
  · intro hfault
    cases hfault with
    | @item _ index value hleast hfound =>
        obtain ⟨⟨hlt, value', hfound', hother⟩, hlow⟩ := hleast
        obtain rfl := Option.some.inj (hfound.symm.trans hfound')
        match index, hlt with
        | 0, _ => exact .inl ⟨value, hfound, hother, rfl⟩
        | 1, _ =>
            have hzero : ¬ FaultyIndex items 0 := fun hfaulty => absurd (hlow hfaulty) (by omega)
            have hfirst := exists_bool_of_not_faultyIndex (by omega) hzero true
            exact .inr ⟨hfirst, value, hfound, hother, rfl⟩
    | whole _ harray => exact absurd rfl (harray items)

/-! ## Sections -/

theorem ofSection_eq_ok_iff (found : Json) (s : Settings) :
    ofSection found = .ok s ↔ Gives found s := by
  cases found with
  | object members =>
      rw [ofSection_object_eq_ok_iff]
      constructor
      · exact .members
      · intro hgives
        cases hgives with
        | members hreads => exact hreads
  | array items => exact ofSection_array_eq_ok_iff items s
  | _ => exact iff_of_false nofun nofun

theorem ofSection_eq_error_iff (found : Json) (e : SectionError) :
    ofSection found = .error e ↔ FirstFault found e := by
  cases found with
  | object members => exact ofSection_object_eq_error_iff members e
  | array items => exact ofSection_array_eq_error_iff items e
  | _ =>
      constructor
      · rintro ⟨⟩
        exact .whole nofun nofun
      · rintro ⟨⟩
        rfl

theorem FirstFault.exists_key {members : List (String × Json)} {e : SectionError}
    (hfault : FirstFault (.object members) e) :
    ∃ key, IsLeast {key | FaultyKey members key} key ∧ e.Names key := by
  cases hfault with
  | unknownKey hleast _ => exact ⟨_, hleast, SectionError.names_of_place rfl⟩
  | member hleast _ _ => exact ⟨_, hleast, SectionError.names_of_place rfl⟩
  | whole hobject => exact absurd rfl (hobject members)

theorem FirstFault.exists_index {items : List Json} {e : SectionError}
    (hfault : FirstFault (.array items) e) :
    ∃ index, IsLeast {index | FaultyIndex items index} index ∧ e.Names (toString index) := by
  cases hfault with
  | item hleast _ => exact ⟨_, hleast, SectionError.names_of_place rfl⟩
  | whole _ harray => exact absurd rfl (harray items)

/-! ## Trees -/

/-- How the settings are read from a tree. -/
structure ReadByGrammar (tree : Json) : Prop where
  /-- If the way to the section breaks off, there are the defaults. -/
  missing : tree.BreaksOff sectionPath → ofLayers [tree] = .ok {}
  /-- Otherwise there is a section, and it gives the settings or has a first fault. -/
  present : ¬ tree.BreaksOff sectionPath → ∃ found, tree.path? sectionPath = some found ∧
    (∀ s, ofLayers [tree] = .ok s ↔ Gives found s) ∧
    ∀ e, ofLayers [tree] = .error e ↔ FirstFault found e
  /-- The report about an object shows the least key that is unknown or has no truth value. -/
  named_key : ∀ members e, tree.path? sectionPath = some (.object members) →
    ofLayers [tree] = .error e → ∃ key, IsLeast {key | FaultyKey members key} key ∧ e.Names key
  /-- The report about an array shows the least index of a setting that has no truth value. -/
  named_index : ∀ items e, tree.path? sectionPath = some (.array items) →
    ofLayers [tree] = .error e →
      ∃ index, IsLeast {index | FaultyIndex items index} index ∧ e.Names (toString index)

theorem ofLayers_object (members : List (String × Json)) :
    ofLayers [.object members] = ofTree (.object members) := by
  have hpath := Json.path?_merge_empty members "modules" [moduleName, "config"]
  have hmerged : Json.mergeLayers? [.object members] =
      some (Json.merge (.object []) (.object members)) := rfl
  simp only [ofLayers_eq_ofTree hmerged, ofTree, sectionPath, hpath]

theorem ofLayers_object_of_path? {members : List (String × Json)} {found : Json}
    (hfound : (Json.object members).path? sectionPath = some found) :
    ofLayers [.object members] = ofSection found := by
  rw [ofLayers_object, ofTree, hfound, Option.elim_some]

/-- Any tree that is an object is read by the grammar. -/
theorem read_by_grammar (members : List (String × Json)) :
    ReadByGrammar (.object members) where
  missing hbreaks := by
    rw [ofLayers_object, ofTree, (Json.path?_eq_none_iff _ _).mpr hbreaks, Option.elim_none]
  present hbreaks := by
    obtain ⟨found, hfound⟩ := Option.ne_none_iff_exists'.mp
      (mt (Json.path?_eq_none_iff sectionPath (.object members)).mp hbreaks)
    rw [ofLayers_object_of_path? hfound]
    exact ⟨found, hfound, ofSection_eq_ok_iff found, ofSection_eq_error_iff found⟩
  named_key members' e hfound hread := by
    rw [ofLayers_object_of_path? hfound, ofSection_eq_error_iff] at hread
    exact hread.exists_key
  named_index items e hfound hread := by
    rw [ofLayers_object_of_path? hfound, ofSection_eq_error_iff] at hread
    exact hread.exists_index

/-- Of two faults the one at the lesser key is reported, whichever member comes first. -/
example : ofSection (.object [("symmetric", .null), (bidirectionalEqualityKey, .string "yes")]) =
    .error (.notBool bidirectionalEqualityKey (.string "yes")) := by
  rfl

end Settings

end Datatypes
