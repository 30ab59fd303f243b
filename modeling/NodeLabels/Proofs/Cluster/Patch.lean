import NodeLabels.Cluster.Object
import NodeLabels.Json.Merge
/-!
# What a patch does to labels

The labels of a document before and after it was merged with the patch of a label map, and of a
whole cluster that takes one patch after the other.
-/

namespace NodeLabels

namespace Json

theorem lookup_members (j : Json) (key : String) : j.members.lookup key = j.member? key := by
  cases j <;> rfl

theorem member?_getD_null (j : Option Json) (key : String) :
    (j.getD .null).member? key = j.bind (member? key) := by
  cases j <;> rfl

/-- A patch of texts sets its members and leaves the others alone. -/
theorem lookup_mergeMembers_texts {es : List (String × String)}
    (hsorted : es.Pairwise fun a b => a.1 < b.1) (target : List (String × Json)) (key : String) :
    (mergeMembers target (es.map fun e => (e.1, .string e.2))).lookup key =
      ((es.lookup key).map Json.string).or (target.lookup key) := by
  induction es generalizing target with
  | nil => rfl
  | cons e es ih =>
    obtain ⟨hlt, hes⟩ := List.pairwise_cons.1 hsorted
    rw [List.map_cons, mergeMembers, ih hes, merge, lookup_setMember, lookup_entry_cons]
    · by_cases hkey : key = e.1
      · rw [hkey, LabelMap.lookup_eq_none_of_lt hlt, if_pos rfl, if_pos rfl]
        rfl
      · rw [if_neg hkey, if_neg hkey]
    · simp
    · simp

/-- A patch of one object merges it into that member and leaves the others alone. -/
theorem member?_merge_object (target : Json) (key : String) (patch : List (String × Json))
    (k : String) :
    (merge target (.object [(key, .object patch)])).member? k =
      if k = key then some (merge ((target.member? key).getD .null) (.object patch))
      else target.member? k := by
  rw [merge, mergeMembers, mergeMembers, lookup_members]
  · exact (lookup_setMember ..).trans (by rw [lookup_members])
  · simp

theorem member?_merge_texts {es : List (String × String)}
    (hsorted : es.Pairwise fun a b => a.1 < b.1) (target : Json) (key : String) :
    (merge target (.object (es.map fun e => (e.1, .string e.2)))).member? key =
      ((es.lookup key).map Json.string).or (target.member? key) := by
  rw [merge, ← lookup_members target]
  exact lookup_mergeMembers_texts hsorted _ key

end Json

namespace Cluster

/-- A label of the node that a document describes. -/
def label? (document : Json) (key : String) : Option Json :=
  ((document.member? "metadata").bind (Json.member? "labels")).bind (Json.member? key)

/-- The labels of the patch are set and the others stay. -/
theorem label?_merge_labelPatch (document : Json) (labels : LabelMap) (key : String) :
    label? (Json.merge document (labelPatch labels)) key =
      ((labels.find? key).map Json.string).or (label? document key) := by
  rw [label?, labelPatch, Json.member?_merge_object, if_pos rfl, Option.bind_some,
    Json.member?_merge_object, if_pos rfl, Option.bind_some, Json.member?_merge_texts labels.sorted,
    Json.member?_getD_null, Json.member?_getD_null]
  rfl

end Cluster

end NodeLabels
