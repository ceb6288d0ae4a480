import Datatypes.Proofs.Settings.Layers

/-! # What becomes of a setting once it is made

A layer that makes a setting is laid over what is below it, and no layer above that leaves the
modules alone takes the setting back. What is read is the setting then, whatever the layers below
hold, or it is an error. There is one way to lose it: a layer that is not an object, be it below
or above, keeps all of them from being merged, and the defaults are read without an error.
-/

namespace Datatypes

/-- One of the settings. -/
inductive Setting where
  | bidirectionalEquality
  | preregisterBuiltin

namespace Setting

/-- The key of a setting in a section. -/
def key : Setting → String
  | bidirectionalEquality => Settings.bidirectionalEqualityKey
  | preregisterBuiltin => Settings.preregisterBuiltinKey

end Setting

namespace Settings

open SectionError (sectionPath)

/-- What settings are as to one of them. -/
def value (s : Settings) : Setting → Bool
  | .bidirectionalEquality => s.bidirectionalEquality
  | .preregisterBuiltin => s.preregisterBuiltin

/-- A layer makes a setting: its section is an object that has nothing but truth values under
known keys, and has one for the setting. -/
structure Makes (layer : Json) (setting : Setting) (b : Bool) : Prop where
  isObject : ∃ members, layer.path? sectionPath = some (.object members)
  known : ∀ key value, layer.path? (sectionPath ++ [key]) = some value →
    key ∈ knownKeys ∧ ∃ b, value = .bool b
  set : layer.path? (sectionPath ++ [setting.key]) = some (.bool b)

/-- A layer leaves the modules alone: it has nothing under their key, perhaps because it is not
an object in the first place. -/
def SparesModules (layer : Json) : Prop :=
  layer.member? "modules" = none

/-! ## Reading what has been made -/

namespace ReadsAs

variable {found : String → Option Json} {s : Settings}

/-- A setting is what stands under its key, and its default for want of anything. -/
theorem getD_key (hreads : ReadsAs found s) (setting : Setting) :
    (found setting.key).getD (.bool (value {} setting)) = .bool (s.value setting) := by
  cases setting with
  | bidirectionalEquality => exact hreads.bidirectionalEquality
  | preregisterBuiltin => exact hreads.preregisterBuiltin

theorem value_eq (hreads : ReadsAs found s) {setting : Setting} {b : Bool}
    (hset : found setting.key = some (.bool b)) : s.value setting = b := by
  have hsetting := hreads.getD_key setting
  rw [hset] at hsetting
  exact (Json.bool.inj hsetting).symm

end ReadsAs

/-- A tree that can be read has nothing but truth values under known keys. An array has nothing
under any key. -/
theorem known_of_ofTree_eq_ok {tree : Json} {s : Settings} (hread : ofTree tree = .ok s)
    {key : String} {value : Json} (hvalue : tree.path? (sectionPath ++ [key]) = some value) :
    key ∈ knownKeys ∧ ∃ b, value = .bool b := by
  have hmember := hvalue
  rw [Json.path?_concat] at hmember
  obtain ⟨content, hsection, hmember⟩ := Option.bind_eq_some_iff.mp hmember
  have hobject : ∀ found, tree.path? sectionPath = some found → found.isObject := by
    intro found hfound
    rw [Option.some.inj (hfound.symm.trans hsection)]
    exact Json.isObject_of_member? hmember
  have hreads := (ofTree_eq_ok_iff hobject s).mp hread
  have hknown : key ∈ knownKeys := hreads.known key (Option.isSome_of_eq_some hvalue)
  exact ⟨hknown, ((exists_readsAs_iff _).mp ⟨s, hreads⟩).2 key hknown value hvalue⟩

namespace Makes

variable {layer : Json} {setting : Setting} {b : Bool}

theorem of_members {members : List (String × Json)}
    (hsection : layer.path? sectionPath = some (.object members))
    (hknown : ∀ member ∈ members, member.1 ∈ knownKeys ∧ ∃ b, member.2 = .bool b)
    (hset : members.lookup setting.key = some (.bool b)) : Makes layer setting b := by
  have hpath (key : String) : layer.path? (sectionPath ++ [key]) = members.lookup key := by
    rw [Json.path?_concat, hsection]
    rfl
  refine ⟨⟨members, hsection⟩, ?_, (hpath setting.key).trans hset⟩
  intro key value hvalue
  rw [hpath] at hvalue
  obtain ⟨earlier, later, rfl, -⟩ := List.lookup_eq_some_iff.mp hvalue
  exact hknown (key, value) (by simp)

/-- Over any tree the layer is read setting by setting. -/
theorem ofTree_merge_eq_ok_iff (hmakes : Makes layer setting b) (tree : Json) (s : Settings) :
    ofTree (tree.merge layer) = .ok s ↔
      ReadsAs (fun key => Option.merge Json.merge (tree.path? (sectionPath ++ [key]))
        (layer.path? (sectionPath ++ [key]))) s := by
  obtain ⟨members, hsection⟩ := hmakes.isObject
  have hobject : ∀ found, (tree.merge layer).path? sectionPath = some found → found.isObject := by
    intro found hfound
    rw [Json.path?_merge_of_isSome tree (Option.isSome_of_eq_some hsection), hsection] at hfound
    cases hold : tree.path? sectionPath with
    | none =>
        rw [hold, Option.merge_none_left] at hfound
        exact Option.some.inj hfound ▸ rfl
    | some old =>
        rw [hold] at hfound
        exact Option.some.inj hfound ▸ Json.isObject_merge rfl
  rw [ofTree_eq_ok_iff hobject]
  simp only [Json.path?_concat_merge_of_isObject tree hsection rfl]

/-- It makes no difference what the tree below has for the setting. -/
theorem value_of_ofTree_merge (hmakes : Makes layer setting b) {tree : Json} {s : Settings}
    (hread : ofTree (tree.merge layer) = .ok s) : s.value setting = b := by
  apply ((hmakes.ofTree_merge_eq_ok_iff tree s).mp hread).value_eq
  rw [hmakes.set, Json.optionMerge_eq_bool_iff]

/-- A tree that can be read can still be read with the layer on top. -/
theorem exists_ofTree_merge_eq_ok (hmakes : Makes layer setting b) {tree : Json}
    (htree : ∃ s, ofTree tree = .ok s) : ∃ s, ofTree (tree.merge layer) = .ok s := by
  obtain ⟨s, hread⟩ := htree
  simp only [hmakes.ofTree_merge_eq_ok_iff, exists_readsAs_iff]
  have hknown : ∀ key value, Option.merge Json.merge (tree.path? (sectionPath ++ [key]))
      (layer.path? (sectionPath ++ [key])) = some value →
        key ∈ knownKeys ∧ ∃ b, value = .bool b := by
    intro key value hvalue
    cases hnew : layer.path? (sectionPath ++ [key]) with
    | none =>
        rw [hnew, Option.merge_none_right] at hvalue
        exact known_of_ofTree_eq_ok hread hvalue
    | some new =>
        obtain ⟨hkey, b', rfl⟩ := hmakes.known key new hnew
        rw [hnew, (Json.optionMerge_eq_bool_iff _ _ b').mpr rfl] at hvalue
        exact ⟨hkey, b', (Option.some.inj hvalue).symm⟩
  constructor
  · intro key hsome
    obtain ⟨value, hvalue⟩ := Option.isSome_iff_exists.mp hsome
    exact (hknown key value hvalue).1
  · intro key _ value hvalue
    exact (hknown key value hvalue).2

end Makes

/-! ## Layers that are objects, and others -/

theorem ofLayers_of_objects {layers : List Json} (hobjects : ∀ layer ∈ layers, layer.isObject) :
    ofLayers layers = ofTree (layers.foldl Json.merge (.object [])) :=
  ofLayers_eq_ofTree (Json.mergeLayers?_of_objects hobjects)

/-- With a layer among them that is not an object, layers are read as if there were no section. -/
theorem ofLayers_of_not_object {layers : List Json} {layer : Json} (hmem : layer ∈ layers)
    (hlayer : ¬ layer.isObject) : ofLayers layers = .ok {} := by
  have hnone : ¬ layers.all Json.isObject :=
    fun hall => hlayer (List.all_eq_true.mp hall layer hmem)
  apply ofLayers_of_not_merged
  rw [Json.mergeLayers?, if_neg hnone]

/-- Objects that leave the modules alone can as well be left out at the top. -/
theorem ofTree_foldl_merge {later : List Json} (hobjects : ∀ layer ∈ later, layer.isObject)
    (hspare : ∀ layer ∈ later, SparesModules layer) (tree : Json) :
    ofTree (later.foldl Json.merge tree) = ofTree tree := by
  have hpath := Json.path?_foldl_merge_of_untouched hobjects hspare tree
    [moduleName, "config"]
  simp only [ofTree, sectionPath, hpath]

/-- A setting is made in a layer, and the layers above that leave the modules alone. -/
structure KeepsSetting (earlier : List Json) (layer : Json) (later : List Json)
    (setting : Setting) (b : Bool) : Prop where
  /-- What is read without an error is something else than the setting exactly if there is a
  layer that is not an object, and the default is something else. -/
  lost_iff : (∃ s, ofLayers (earlier ++ layer :: later) = .ok s ∧ s.value setting ≠ b) ↔
    (∃ other ∈ earlier ++ layer :: later, ¬ other.isObject) ∧ value {} setting ≠ b
  /-- If the layers below can be read by themselves, then all of them can. -/
  readable : (∃ s, ofLayers earlier = .ok s) →
    ∃ s, ofLayers (earlier ++ layer :: later) = .ok s

/-- Where all layers are objects, the setting is what is read, or the reading fails. A layer that
is no object undoes it without an error. -/
theorem keeps_setting_among_objects (earlier later : List Json) (layer : Json) (setting : Setting)
    (b : Bool) (hmakes : Makes layer setting b) (hlater : ∀ other ∈ later, SparesModules other) :
    KeepsSetting earlier layer later setting b := by
  by_cases hobjects : ∀ other ∈ earlier ++ layer :: later, other.isObject
  -- All layers are merged, and those above the setting do not get near it.
  · obtain ⟨hbelow, hrest⟩ := List.forall_mem_append.mp hobjects
    have htree : ofLayers (earlier ++ layer :: later) =
        ofTree ((earlier.foldl Json.merge (.object [])).merge layer) := by
      rw [ofLayers_of_objects hobjects, List.foldl_append, List.foldl_cons]
      exact ofTree_foldl_merge (List.forall_mem_cons.mp hrest).2 hlater _
    constructor
    · refine iff_of_false ?_ ?_
      · rintro ⟨s, hread, hlost⟩
        exact hlost (hmakes.value_of_ofTree_merge (htree ▸ hread))
      · rintro ⟨⟨other, hmem, hother⟩, -⟩
        exact hother (hobjects other hmem)
    · rw [htree, ofLayers_of_objects hbelow]
      exact hmakes.exists_ofTree_merge_eq_ok
  -- One layer that is not an object is enough for the defaults, wherever it stands.
  · obtain ⟨other, hmem, hother⟩ : ∃ other ∈ earlier ++ layer :: later, ¬ other.isObject := by
      simpa using hobjects
    have hdefaults := ofLayers_of_not_object hmem hother
    constructor
    · rw [hdefaults]
      constructor
      · rintro ⟨s, hread, hlost⟩
        exact ⟨⟨other, hmem, hother⟩, Except.ok.inj hread ▸ hlost⟩
      · rintro ⟨-, hlost⟩
        exact ⟨{}, rfl, hlost⟩
    · intro _
      exact ⟨{}, hdefaults⟩

/-- A truth value over a section that cannot be read, below a layer without modules. -/
theorem keeps_setting_over_number :
    let config (value : Json) : Json :=
      .object [("modules", .object [(moduleName, .object [("config", value)])])]
    let earlier : List Json := [config (.number (.integer 3))]
    let layer := config (.object [(bidirectionalEqualityKey, .bool false)])
    let later : List Json := [.object [("logging", .null)]]
    Makes layer .bidirectionalEquality false ∧ (∀ other ∈ later, SparesModules other) ∧
      KeepsSetting earlier layer later .bidirectionalEquality false ∧
      ofLayers (earlier ++ layer :: later) = .ok { bidirectionalEquality := false } := by
  intro config earlier layer later
  have hmakes : Makes layer .bidirectionalEquality false :=
    .of_members rfl (by simp [knownKeys]) rfl
  have hlater : ∀ other ∈ later, SparesModules other := by simp [later, SparesModules, Json.member?]
  exact ⟨hmakes, hlater, keeps_setting_among_objects earlier later layer _ _ hmakes hlater, rfl⟩

/-- Under a layer that is not an object the setting is gone, and nothing is reported. -/
theorem setting_lost_under_null :
    let layer : Json := .object [("modules", .object [(moduleName, .object
      [("config", .object [(preregisterBuiltinKey, .bool true)])])])]
    Makes layer .preregisterBuiltin true ∧ SparesModules .null ∧
      ofLayers [layer, .null] = .ok {} ∧ value {} .preregisterBuiltin ≠ true :=
  ⟨.of_members rfl (by simp [knownKeys]) rfl, rfl, rfl, by decide⟩

end Settings

end Datatypes
