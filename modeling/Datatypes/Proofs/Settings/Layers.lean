import Datatypes.Proofs.Json.Merge
import Datatypes.Proofs.Settings.Section

/-! # The last layer wins

Layers are merged before any of them is read, so what an earlier layer sets is seen only as long
as no later one sets it too. This goes setting by setting, not section by section. A key cannot
be taken back, however: once it is in a section it is in the merged section.
-/

namespace Datatypes.Settings

open SectionError (sectionPath)

/-- Some layer has the key in its section. -/
def Occurs (layers : List Json) (key : String) : Prop :=
  ∃ layer ∈ layers, (layer.path? (sectionPath ++ [key])).isSome

/-- The value under a key of the section in the last layer that has one. -/
def lastSetting? (layers : List Json) (key : String) : Option Json :=
  (layers.filterMap (Json.path? (sectionPath ++ [key]))).getLast?

/-- What is read from layers is, setting by setting, what the last one of them says that has the
setting in its section. -/
structure LastWins (layers : List Json) : Prop where
  /-- They can be read if they have no key but those of the settings, and the last value of each
  setting that occurs is a truth value. -/
  readable_iff : (∃ s, ofLayers layers = .ok s) ↔
    (∀ key, Occurs layers key → key ∈ knownKeys) ∧
    ∀ key ∈ knownKeys, ∀ value, lastSetting? layers key = some value → ∃ b, value = .bool b
  /-- Each setting then has its last value, and its default if no layer sets it. -/
  settings : ∀ s, ofLayers layers = .ok s →
    (lastSetting? layers bidirectionalEqualityKey).getD (.bool true) =
      .bool s.bidirectionalEquality ∧
    (lastSetting? layers preregisterBuiltinKey).getD (.bool false) = .bool s.preregisterBuiltin
  /-- What the layers before the last one say, be it of a wrong type, does not matter. -/
  last_only : ∀ other : List Json, (∀ layer ∈ other, layer.ObjectsAlong sectionPath) →
    (∀ key, lastSetting? other key = lastSetting? layers key) →
    ∀ s, ofLayers other = .ok s ↔ ofLayers layers = .ok s
  /-- An unknown key is an error whatever layers are added. -/
  unknown_stays : ∀ key, Occurs layers key → key ∉ knownKeys →
    ∀ later : List Json, (∀ layer ∈ later, layer.ObjectsAlong sectionPath) →
    ∃ e, ofLayers (layers ++ later) = .error e
  /-- Nothing but the sections counts, not even whether there are layers without one. -/
  sections_only : ∀ other : List Json, (∀ layer ∈ other, layer.ObjectsAlong sectionPath) →
    other.filterMap (Json.path? sectionPath) = layers.filterMap (Json.path? sectionPath) →
    ofLayers other = ofLayers layers

/-! ## Keys that occur -/

theorem occurs_iff_isSome (layers : List Json) (key : String) :
    Occurs layers key ↔ (lastSetting? layers key).isSome := by
  rw [lastSetting?, List.getLast?_isSome, ne_eq, List.filterMap_eq_nil_iff]
  simp [Occurs, Option.isSome_iff_ne_none]

theorem Occurs.append {layers : List Json} {key : String} (hoccurs : Occurs layers key)
    (later : List Json) : Occurs (layers ++ later) key := by
  obtain ⟨layer, hmem, hsome⟩ := hoccurs
  exact ⟨layer, List.mem_append_left later hmem, hsome⟩

/-! ## The merged tree -/

/-- Reading a tree that has no section, or an object for it. -/
theorem ofTree_eq_ok_iff {tree : Json}
    (htree : ∀ found, tree.path? sectionPath = some found → found.isObject) (s : Settings) :
    ofTree tree = .ok s ↔ ReadsAs (fun key => tree.path? (sectionPath ++ [key])) s := by
  simp only [ofTree, Json.path?_concat]
  cases hfound : tree.path? sectionPath with
  | none =>
      -- Without a section there are the defaults, just as in an empty one.
      exact ofSection_object_eq_ok_iff [] s
  | some found =>
      cases found with
      | object members => exact ofSection_object_eq_ok_iff members s
      | _ => cases htree _ hfound

/-- The merged section reads as the last values do. It may hold more under a key than the last
value, but only where that is not a truth value anyway. -/
theorem ofLayers_eq_ok_iff {layers : List Json}
    (hlayers : ∀ layer ∈ layers, layer.ObjectsAlong sectionPath) (s : Settings) :
    ofLayers layers = .ok s ↔ ReadsAs (lastSetting? layers) s := by
  obtain ⟨tree, hmerged, halong, hpath⟩ := Json.mergeLayers?_of_objectsAlong hlayers
  have htree : ∀ found, tree.path? sectionPath = some found → found.isObject :=
    fun found => halong.isObject_of_path?
  have hsome (key : String) : (tree.path? (sectionPath ++ [key])).isSome ↔
      (lastSetting? layers key).isSome := by
    rw [hpath, Option.isSome_iff_ne_none, Option.isSome_iff_ne_none]
    exact not_congr (Json.mergeAll?_eq_none_iff _)
  have hsetting (key : String) (default b : Bool) :
      (tree.path? (sectionPath ++ [key])).getD (.bool default) = .bool b ↔
        (lastSetting? layers key).getD (.bool default) = .bool b := by
    rw [hpath]
    exact Json.mergeAll?_getD_eq_bool_iff _ default b
  simp only [ofLayers_eq_ofTree hmerged, ofTree_eq_ok_iff htree, readsAs_iff, hsome, hsetting]

/-- Only the sections of the layers are read. The way to them is one key shorter than the way to
a setting, so nothing holds up merging there either. -/
theorem ofLayers_eq_ofSections {layers : List Json}
    (hlayers : ∀ layer ∈ layers, layer.ObjectsAlong sectionPath) :
    ofLayers layers =
      (Json.mergeAll? (layers.filterMap (Json.path? sectionPath))).elim (.ok {}) ofSection := by
  have hsplit : sectionPath = ["modules", moduleName] ++ ["config"] := rfl
  have hway : ∀ layer ∈ layers, layer.ObjectsAlong ["modules", moduleName] := by
    intro layer hmem
    have hlayer := hlayers layer hmem
    rw [hsplit] at hlayer
    exact hlayer.of_append
  obtain ⟨tree, hmerged, -, hpath⟩ := Json.mergeLayers?_of_objectsAlong hway
  rw [ofLayers_eq_ofTree hmerged, ofTree, hsplit, hpath "config"]

/-! ## Reading the layers -/

/-- Layers that have objects along the way to the section, as far as it leads in them, are read
setting by setting. -/
theorem last_layer_wins (layers : List Json)
    (hlayers : ∀ layer ∈ layers, layer.ObjectsAlong sectionPath) : LastWins layers where
  readable_iff := by
    simp only [ofLayers_eq_ok_iff hlayers, occurs_iff_isSome]
    exact exists_readsAs_iff (lastSetting? layers)
  settings s hread :=
    have hreads := (ofLayers_eq_ok_iff hlayers s).mp hread
    ⟨hreads.bidirectionalEquality, hreads.preregisterBuiltin⟩
  last_only other hother hlast s := by
    rw [ofLayers_eq_ok_iff hother, ofLayers_eq_ok_iff hlayers, funext hlast]
  unknown_stays key hoccurs hunknown later hlater := by
    cases hread : ofLayers (layers ++ later) with
    | error e => exact ⟨e, rfl⟩
    | ok s =>
        have hall : ∀ layer ∈ layers ++ later, layer.ObjectsAlong sectionPath :=
          List.forall_mem_append.mpr ⟨hlayers, hlater⟩
        have hreads := (ofLayers_eq_ok_iff hall s).mp hread
        have hlast : (lastSetting? (layers ++ later) key).isSome :=
          (occurs_iff_isSome _ key).mp (hoccurs.append later)
        exact absurd (hreads.known key hlast) hunknown
  sections_only other hother hsections := by
    rw [ofLayers_eq_ofSections hother, ofLayers_eq_ofSections hlayers, hsections]

/-- A text in the place of a truth value, a layer of another module, and the truth value. -/
theorem last_layer_wins_over_text :
    let config (name : String) (members : List (String × Json)) : Json :=
      .object [("modules", .object [(name, .object [("config", .object members)])])]
    let layers : List Json :=
      [config moduleName
        [(preregisterBuiltinKey, .string "yes"), (bidirectionalEqualityKey, .bool false)],
       config "storage" [("size", .null)],
       config moduleName [(preregisterBuiltinKey, .bool true)]]
    (∀ layer ∈ layers, layer.ObjectsAlong sectionPath) ∧ LastWins layers ∧
      ofLayers layers = .ok { bidirectionalEquality := false, preregisterBuiltin := true } := by
  intro config layers
  have hlayers : ∀ layer ∈ layers, layer.ObjectsAlong sectionPath := by decide
  exact ⟨hlayers, last_layer_wins layers hlayers, rfl⟩

end Datatypes.Settings
