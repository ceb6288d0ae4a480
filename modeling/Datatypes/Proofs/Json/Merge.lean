import Datatypes.Json.Merge
import Datatypes.Proofs.Json.Members

/-! # What is found in merged values

Merging goes through objects key by key. Along a way on which all values have objects, as far
as it leads in them, what is found in the merge is the merge of what is found in each. Of
several values merged, the last decides whether the outcome is a truth value, and which.
-/

namespace Datatypes.Json

/-! ## Two values -/

theorem lookup_mergeMembers (old members : List (String × Json)) (key : String) :
    (mergeMembers old members).lookup key =
      Option.merge merge (old.lookup key) (members.lookup key) := by
  induction members with
  | nil =>
      rw [mergeMembers, lookup_sortMembers, List.lookup_nil, Option.merge_none_right]
  | cons member rest ih =>
      rw [mergeMembers, lookup_put, lookup_cons, ih]
      by_cases heq : key = member.1
      · rw [if_pos heq, if_pos heq, heq]
        cases old.lookup member.1 <;> rfl
      · rw [if_neg heq, if_neg heq]

/-- Only a truth value on top makes a truth value of the merge. -/
theorem merge_eq_bool_iff (lower upper : Json) (b : Bool) :
    merge lower upper = .bool b ↔ upper = .bool b := by
  cases upper with
  | object members => cases lower <;> simp [merge]
  | _ => simp [merge]

/-- So it is if there may be nothing below. -/
theorem optionMerge_eq_bool_iff (lower? : Option Json) (upper : Json) (b : Bool) :
    Option.merge merge lower? (some upper) = some (.bool b) ↔ upper = .bool b := by
  cases lower? with
  | none => simp
  | some lower => simp [Option.merge, merge_eq_bool_iff]

theorem isObject_merge {lower upper : Json} (hupper : upper.isObject) :
    (merge lower upper).isObject := by
  cases upper with
  | object members => cases lower <;> simp [merge, isObject]
  | _ => contradiction

/-- Only an object has anything under a key. -/
theorem isObject_of_member? {key : String} {value below : Json}
    (hbelow : value.member? key = some below) : value.isObject := by
  cases value with
  | object members => rfl
  | _ => contradiction

/-- Under a key of an object on top is what the two have there, merged. A value below that is no
object has nothing there. -/
theorem member?_merge (lower : Json) {upper : Json} (hupper : upper.isObject) (key : String) :
    (merge lower upper).member? key =
      Option.merge merge (lower.member? key) (upper.member? key) := by
  cases upper with
  | object members =>
      cases lower with
      | object old =>
          rw [merge]
          exact lookup_mergeMembers old members key
      | _ => exact Option.merge_none_left.symm
  | _ => contradiction

/-! ## Ways -/

theorem path?_cons (key : String) (keys : List String) (value : Json) :
    path? (key :: keys) value = (value.member? key).bind (path? keys) := rfl

theorem path?_concat (keys : List String) (key : String) (value : Json) :
    path? (keys ++ [key]) value = (path? keys value).bind (member? key) := by
  simp only [path?, List.foldlM_append, List.foldlM_cons, List.foldlM_nil, bind_pure]
  rfl

/-- The way along the keys breaks off in a value: it comes to a value that is not an object, or
to an object that does not have the next key. -/
inductive BreaksOff : List String → Json → Prop where
  | notObject {key : String} {keys : List String} {value : Json} (other : ¬ value.isObject) :
      BreaksOff (key :: keys) value
  | noMember {key : String} {keys : List String} {members : List (String × Json)}
      (absent : members.lookup key = none) : BreaksOff (key :: keys) (.object members)
  | further {key : String} {keys : List String} {members : List (String × Json)} {value : Json}
      (found : members.lookup key = some value) (rest : BreaksOff keys value) :
      BreaksOff (key :: keys) (.object members)

theorem path?_eq_none_iff (keys : List String) (value : Json) :
    path? keys value = none ↔ BreaksOff keys value := by
  induction keys generalizing value with
  | nil => exact iff_of_false nofun nofun
  | cons key keys ih =>
      rw [path?_cons, Option.bind_eq_none_iff]
      constructor
      · intro hnone
        cases value with
        | object members =>
            cases hlookup : members.lookup key with
            | none => exact .noMember hlookup
            | some below => exact .further hlookup ((ih below).mp (hnone below hlookup))
        | _ => exact .notObject Bool.false_ne_true
      · intro hbreaks below hbelow
        cases hbreaks with
        | notObject hother => exact absurd (isObject_of_member? hbelow) hother
        | noMember habsent => exact absurd (habsent.symm.trans hbelow) nofun
        | further hfound hrest =>
            obtain rfl := Option.some.inj (hfound.symm.trans hbelow)
            exact (ih _).mpr hrest

/-- A single object is merged with nothing, which changes nothing along a way through it. -/
theorem path?_merge_empty (members : List (String × Json)) (key : String) (keys : List String) :
    (merge (.object []) (.object members)).path? (key :: keys) =
      (object members).path? (key :: keys) := by
  have hmember : (merge (.object []) (.object members)).member? key = members.lookup key := by
    rw [member?_merge _ rfl]
    exact Option.merge_none_left
  rw [path?_cons, path?_cons, hmember]
  rfl

/-- There are objects all along the way, as far as it leads in the value. -/
def ObjectsAlong : List String → Json → Prop
  | [], value => value.isObject
  | key :: keys, value =>
      value.isObject ∧ ∀ below, value.member? key = some below → below.ObjectsAlong keys

instance decidableObjectsAlong :
    (keys : List String) → (value : Json) → Decidable (value.ObjectsAlong keys)
  | [], value => inferInstanceAs (Decidable (value.isObject = true))
  | key :: keys, value =>
      have (below : Json) : Decidable (below.ObjectsAlong keys) := decidableObjectsAlong keys below
      inferInstanceAs (Decidable (_ ∧ ∀ below ∈ value.member? key, below.ObjectsAlong keys))

namespace ObjectsAlong

variable {keys : List String}

theorem isObject {value : Json} (hvalue : value.ObjectsAlong keys) : value.isObject := by
  cases keys with
  | nil => exact hvalue
  | cons key keys => exact hvalue.1

theorem of_append {more : List String} {value : Json}
    (hvalue : value.ObjectsAlong (keys ++ more)) : value.ObjectsAlong keys := by
  induction keys generalizing value with
  | nil => exact hvalue.isObject
  | cons key keys ih => exact ⟨hvalue.1, fun below hbelow => ih (hvalue.2 below hbelow)⟩

/-- What stands at the end of the way is an object too. -/
theorem isObject_of_path? {value found : Json} (hvalue : value.ObjectsAlong keys)
    (hfound : value.path? keys = some found) : found.isObject := by
  induction keys generalizing value with
  | nil => exact Option.some.inj hfound ▸ hvalue
  | cons key keys ih =>
      rw [path?_cons] at hfound
      obtain ⟨below, hbelow, hrest⟩ := Option.bind_eq_some_iff.mp hfound
      exact ih (hvalue.2 below hbelow) hrest

theorem empty (keys : List String) : (object []).ObjectsAlong keys := by
  cases keys with
  | nil => rfl
  | cons key keys => exact ⟨rfl, nofun⟩

theorem merge {lower upper : Json} (hlower : lower.ObjectsAlong keys)
    (hupper : upper.ObjectsAlong keys) : (Json.merge lower upper).ObjectsAlong keys := by
  induction keys generalizing lower upper with
  | nil => exact isObject_merge hupper
  | cons key keys ih =>
      refine ⟨isObject_merge hupper.1, ?_⟩
      intro below hbelow
      rw [member?_merge lower hupper.1] at hbelow
      cases hold : lower.member? key with
      | none =>
          rw [hold, Option.merge_none_left] at hbelow
          exact hupper.2 below hbelow
      | some old =>
          cases hnew : upper.member? key with
          | none =>
              rw [hnew, Option.merge_none_right] at hbelow
              exact hlower.2 below hbelow
          | some new =>
              rw [hold, hnew] at hbelow
              cases hbelow
              exact ih (hlower.2 old hold) (hupper.2 new hnew)

theorem foldl_merge {base : Json} {layers : List Json} (hbase : base.ObjectsAlong keys)
    (hlayers : ∀ layer ∈ layers, layer.ObjectsAlong keys) :
    (layers.foldl Json.merge base).ObjectsAlong keys := by
  induction layers generalizing base with
  | nil => exact hbase
  | cons layer rest ih =>
      obtain ⟨hlayer, hrest⟩ := List.forall_mem_cons.mp hlayers
      exact ih (hbase.merge hlayer) hrest

end ObjectsAlong

/-- At the end of the way, and one key further, merging is not held up by anything. -/
theorem path?_merge {keys : List String} {lower upper : Json} (hlower : lower.ObjectsAlong keys)
    (hupper : upper.ObjectsAlong keys) (key : String) :
    (merge lower upper).path? (keys ++ [key]) =
      Option.merge merge (lower.path? (keys ++ [key])) (upper.path? (keys ++ [key])) := by
  induction keys generalizing lower upper with
  | nil =>
      have hmember := member?_merge lower hupper key
      simp only [List.nil_append, path?_cons, hmember]
      cases lower.member? key <;> cases upper.member? key <;> rfl
  | cons first keys ih =>
      simp only [List.cons_append, path?_cons, member?_merge lower hupper.1]
      cases hold : lower.member? first with
      | none =>
          rw [Option.merge_none_left, Option.bind_none, Option.merge_none_left]
      | some old =>
          cases hnew : upper.member? first with
          | none => rw [Option.merge_none_right, Option.bind_none, Option.merge_none_right]
          | some new => exact ih (hlower.2 old hold) (hupper.2 new hnew)

/-- Where a value on top has something at the end of the way, merging has got there too. -/
theorem path?_merge_of_isSome {keys : List String} (lower : Json) {upper : Json}
    (hsome : (upper.path? keys).isSome) :
    (merge lower upper).path? keys =
      Option.merge merge (lower.path? keys) (upper.path? keys) := by
  induction keys generalizing lower upper with
  | nil => rfl
  | cons key keys ih =>
      cases hnew : upper.member? key with
      | none =>
          rw [path?_cons, hnew] at hsome
          contradiction
      | some new =>
          rw [path?_cons, hnew] at hsome
          simp only [path?_cons, member?_merge lower (isObject_of_member? hnew), hnew]
          cases lower.member? key with
          | none => rw [Option.merge_none_left, Option.bind_none, Option.merge_none_left]
          | some old => exact ih old hsome

/-- So it is one key further, where that something is an object. -/
theorem path?_concat_merge_of_isObject {keys : List String} (lower : Json) {upper found : Json}
    (hfound : upper.path? keys = some found) (hobject : found.isObject) (key : String) :
    (merge lower upper).path? (keys ++ [key]) =
      Option.merge merge (lower.path? (keys ++ [key])) (upper.path? (keys ++ [key])) := by
  have hsome : (upper.path? keys).isSome := Option.isSome_of_eq_some hfound
  simp only [path?_concat, path?_merge_of_isSome lower hsome, hfound]
  cases lower.path? keys with
  | none => rw [Option.merge_none_left, Option.bind_none, Option.merge_none_left]
  | some old => exact member?_merge old hobject key

/-! ## Layers -/

/-- All values of a list, each laid over those before it; nothing if there are none. -/
def mergeAll? (values : List Json) : Option Json :=
  values.foldl (fun found value => Option.merge merge found (some value)) none

theorem mergeAll?_concat (values : List Json) (last : Json) :
    mergeAll? (values ++ [last]) = Option.merge merge (mergeAll? values) (some last) :=
  List.foldl_append

/-- The last of the values tells whether their merge is a truth value, and which. -/
theorem mergeAll?_eq_bool_iff (values : List Json) (b : Bool) :
    mergeAll? values = some (.bool b) ↔ values.getLast? = some (.bool b) := by
  rcases List.eq_nil_or_concat values with rfl | ⟨earlier, last, rfl⟩
  · simp [mergeAll?]
  · rw [List.concat_eq_append, mergeAll?_concat, List.getLast?_concat, optionMerge_eq_bool_iff,
      Option.some_inj]

theorem mergeAll?_eq_none_iff (values : List Json) :
    mergeAll? values = none ↔ values.getLast? = none := by
  rcases List.eq_nil_or_concat values with rfl | ⟨earlier, last, rfl⟩
  · simp [mergeAll?]
  · rw [List.concat_eq_append, mergeAll?_concat, List.getLast?_concat]
    cases mergeAll? earlier <;> simp [Option.merge]

/-- A truth value for want of any value is one of the outcomes. -/
theorem mergeAll?_getD_eq_bool_iff (values : List Json) (default b : Bool) :
    (mergeAll? values).getD (.bool default) = .bool b ↔
      values.getLast?.getD (.bool default) = .bool b := by
  have hbool := mergeAll?_eq_bool_iff values b
  have hnone := mergeAll?_eq_none_iff values
  cases hmerged : mergeAll? values with
  | none => rw [hnone.mp hmerged]
  | some merged =>
      obtain ⟨last, hlast⟩ := Option.ne_none_iff_exists'.mp
        (mt hnone.mpr (hmerged ▸ Option.some_ne_none merged))
      rw [hmerged, hlast, Option.some_inj, Option.some_inj] at hbool
      rw [hlast]
      exact hbool

/-- What is found in layers merged onto a base is what is found in the base and in each layer
that has something there, merged. -/
theorem path?_foldl_merge {keys : List String} {base : Json} {layers : List Json}
    (hbase : base.ObjectsAlong keys) (hlayers : ∀ layer ∈ layers, layer.ObjectsAlong keys)
    (key : String) :
    (layers.foldl merge base).path? (keys ++ [key]) =
      (layers.filterMap (path? (keys ++ [key]))).foldl
        (fun found value => Option.merge merge found (some value))
        (base.path? (keys ++ [key])) := by
  induction layers generalizing base with
  | nil => rfl
  | cons layer rest ih =>
      obtain ⟨hlayer, hrest⟩ := List.forall_mem_cons.mp hlayers
      rw [List.foldl_cons, ih (hbase.merge hlayer) hrest, path?_merge hbase hlayer]
      cases hfound : layer.path? (keys ++ [key]) with
      | none => rw [List.filterMap_cons_none hfound, Option.merge_none_right]
      | some value => rw [List.filterMap_cons_some hfound, List.foldl_cons]

/-- Objects without a key leave everything as it is that is found through it. -/
theorem path?_foldl_merge_of_untouched {key : String} {layers : List Json}
    (hobjects : ∀ layer ∈ layers, layer.isObject)
    (huntouched : ∀ layer ∈ layers, layer.member? key = none) (base : Json)
    (keys : List String) :
    (layers.foldl merge base).path? (key :: keys) = base.path? (key :: keys) := by
  induction layers generalizing base with
  | nil => rfl
  | cons layer rest ih =>
      obtain ⟨hobject, hobjects⟩ := List.forall_mem_cons.mp hobjects
      obtain ⟨hlayer, hrest⟩ := List.forall_mem_cons.mp huntouched
      rw [List.foldl_cons, ih hobjects hrest, path?_cons, member?_merge base hobject, hlayer,
        Option.merge_none_right, path?_cons]

theorem mergeLayers?_of_objects {layers : List Json}
    (hobjects : ∀ layer ∈ layers, layer.isObject) :
    mergeLayers? layers = some (layers.foldl merge (object [])) :=
  if_pos (List.all_eq_true.mpr hobjects)

/-- Layers that have objects along the way can be merged. The merge has objects along it too,
and one key further there is in it what is there in the layers. -/
theorem mergeLayers?_of_objectsAlong {keys : List String} {layers : List Json}
    (hlayers : ∀ layer ∈ layers, layer.ObjectsAlong keys) :
    ∃ tree, mergeLayers? layers = some tree ∧ tree.ObjectsAlong keys ∧
      ∀ key, tree.path? (keys ++ [key]) =
        mergeAll? (layers.filterMap (path? (keys ++ [key]))) := by
  have hobjects : ∀ layer ∈ layers, layer.isObject :=
    fun layer hmem => (hlayers layer hmem).isObject
  refine ⟨layers.foldl merge (object []), mergeLayers?_of_objects hobjects,
    ObjectsAlong.foldl_merge (.empty keys) hlayers, ?_⟩
  intro key
  rw [path?_foldl_merge (.empty keys) hlayers]
  cases keys <;> rfl

end Datatypes.Json
