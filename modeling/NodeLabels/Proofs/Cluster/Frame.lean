import NodeLabels.Proofs.Cluster.Patch
import NodeLabels.Proofs.Json.Same
/-!
# What a label patch leaves alone

A label patch sets the labels that it names and leaves every other part of the document as it was.
A second time it changes nothing, and two patches one after the other come to the patch of both
label maps, the later one counting.
-/

namespace NodeLabels

namespace Json

def isObject : Json → Bool
  | .object _ => true
  | _ => false

theorem isObject_merge_object (target : Json) (patch : List (String × Json)) :
    (merge target (.object patch)).isObject = true := by
  rw [merge]
  rfl

/-! ## Patching twice -/

theorem setMember_of_lookup {key : String} {value : Json} {ms : List (String × Json)}
    (h : ms.lookup key = some value) : setMember key value ms = ms := by
  induction ms with
  | nil => cases h
  | cons m ms ih =>
    rw [lookup_entry_cons] at h
    rw [setMember]
    by_cases hm : m.1 = key
    · rw [if_pos hm.symm] at h
      rw [if_pos hm, ← hm, ← Option.some.inj h]
    · rw [if_neg (Ne.symm hm)] at h
      rw [if_neg hm, ih h]

/-- What has all the texts of a patch is not changed by it. -/
theorem mergeMembers_texts_of_lookup {es : List (String × String)} {ms : List (String × Json)}
    (h : ∀ e ∈ es, ms.lookup e.1 = some (.string e.2)) :
    mergeMembers ms (es.map fun e => (e.1, .string e.2)) = ms := by
  induction es with
  | nil => rfl
  | cons e es ih =>
    obtain ⟨he, hes⟩ := List.forall_mem_cons.1 h
    rw [List.map_cons, mergeMembers, merge, setMember_of_lookup he, ih hes]
    · simp
    · simp

/-- Applying the patch to what it was applied to changes nothing. -/
def Idempotent (patch : List (String × Json)) : Prop :=
  ∀ target, merge (merge target (.object patch)) (.object patch) = merge target (.object patch)

theorem idempotent_texts {es : List (String × String)}
    (hsorted : es.Pairwise fun a b => a.1 < b.1) :
    Idempotent (es.map fun e => (e.1, .string e.2)) := by
  intro target
  rw [merge, merge, members]
  congr 1
  apply mergeMembers_texts_of_lookup
  intro e he
  rw [lookup_mergeMembers_texts hsorted, LabelMap.lookup_of_mem hsorted he]
  rfl

theorem idempotent_member {patch : List (String × Json)} (h : Idempotent patch) (key : String) :
    Idempotent [(key, .object patch)] := by
  intro target
  have hmember := member?_merge_object target key patch key
  rw [if_pos rfl] at hmember
  rw [merge, mergeMembers, mergeMembers, lookup_members, hmember, Option.getD_some, h]
  · congr 1
    apply setMember_of_lookup
    rw [lookup_members, hmember]
  · simp

/-! ## One patch after the other -/

/-- The third patch does what the first two do one after the other. -/
def Composes (first second both : List (String × Json)) : Prop :=
  ∀ target, Same (merge (merge target (.object first)) (.object second))
    (merge target (.object both))

theorem Same.of_members {p q : List (String × Json)} {a b : Json}
    (h : ∀ key,
      ((merge a (.object p)).member? key = none ∧ (merge b (.object q)).member? key = none) ∨
      ∃ v w, (merge a (.object p)).member? key = some v ∧
        (merge b (.object q)).member? key = some w ∧ Same v w) :
    Same (merge a (.object p)) (merge b (.object q)) := by
  rw [merge, merge] at h ⊢
  refine .object (fun key => ?_) fun key v w hv hw => ?_
  · obtain ⟨hv, hw⟩ | ⟨v, w, hv, hw, -⟩ := h key
    · exact (congrArg Option.isSome hv).trans (congrArg Option.isSome hw).symm
    · exact (congrArg Option.isSome hv).trans (congrArg Option.isSome hw).symm
  · obtain ⟨hv', -⟩ | ⟨v', w', hv', hw', hsame⟩ := h key
    · cases hv.symm.trans hv'
    · cases hv.symm.trans hv'
      cases hw.symm.trans hw'
      exact hsame

theorem Same.of_member?_eq {p q : List (String × Json)} {a b : Json}
    (h : ∀ key, (merge a (.object p)).member? key = (merge b (.object q)).member? key) :
    Same (merge a (.object p)) (merge b (.object q)) := by
  apply Same.of_members
  intro key
  cases hv : (merge b (.object q)).member? key with
  | none => exact .inl ⟨(h key).trans hv, rfl⟩
  | some v => exact .inr ⟨v, v, (h key).trans hv, rfl, .refl v⟩

theorem composes_texts (first second : LabelMap) :
    Composes (first.entries.map fun e => (e.1, .string e.2))
      (second.entries.map fun e => (e.1, .string e.2))
      ((first.override second).entries.map fun e => (e.1, .string e.2)) := by
  intro target
  apply Same.of_member?_eq
  intro key
  have hboth : (first.override second).entries.lookup key =
      (second.entries.lookup key).or (first.entries.lookup key) :=
    LabelMap.find?_override first second key
  rw [member?_merge_texts second.sorted, member?_merge_texts first.sorted,
    member?_merge_texts (first.override second).sorted, hboth]
  cases second.entries.lookup key <;> rfl

theorem composes_member {first second both : List (String × Json)}
    (h : Composes first second both) (key : String) :
    Composes [(key, .object first)] [(key, .object second)] [(key, .object both)] := by
  intro target
  apply Same.of_members
  intro k
  simp only [member?_merge_object, if_true, Option.getD_some]
  by_cases hk : k = key
  · rw [if_pos hk, if_pos hk]
    exact .inr ⟨_, _, rfl, rfl, h _⟩
  · rw [if_neg hk, if_neg hk, if_neg hk]
    cases target.member? k with
    | none => exact .inl ⟨rfl, rfl⟩
    | some v => exact .inr ⟨v, v, rfl, rfl, .refl v⟩

/-! ## Parts that a patch does not reach -/

theorem at?_merge_object_self (target : Json) (key : String) (patch : List (String × Json))
    (path : List String) :
    (merge target (.object [(key, .object patch)])).at? (key :: path) =
      (merge ((target.member? key).getD .null) (.object patch)).at? path := by
  rw [at?_cons, member?_merge_object, if_pos rfl]
  rfl

theorem at?_merge_object_of_ne {key k : String} (hk : k ≠ key) (target : Json)
    (patch : List (String × Json)) (path : List String) :
    (merge target (.object [(key, .object patch)])).at? (k :: path) = target.at? (k :: path) := by
  rw [at?_cons, member?_merge_object, if_neg hk]
  rfl

theorem at?_getD_null (j : Option Json) (key : String) (path : List String) :
    (j.getD .null).at? (key :: path) = j.bind (at? (key :: path)) := by
  cases j <;> rfl

end Json

namespace Cluster

/-- The path ends at one of the labels, within it, or on the way to the labels. -/
def Reaches (labels : LabelMap) (path : List String) : Prop :=
  path <+: ["metadata", "labels"] ∨
    ∃ key value, labels.find? key = some value ∧ ["metadata", "labels", key] <+: path

/-- An object with an object of metadata, in which the labels are an object if they are there. -/
def isNodeDocument (document : Json) : Bool :=
  document.isObject && (document.at? ["metadata"]).any Json.isObject &&
    (document.at? ["metadata", "labels"]).all Json.isObject

/-- A part of the document that is none of the labels of the patch, nor around them, is the same
after the patch, and it is still missing if it was. -/
theorem at?_merge_labelPatch {labels : LabelMap} {path : List String}
    (h : ¬ Reaches labels path) (document : Json) :
    (Json.merge document (labelPatch labels)).at? path = document.at? path := by
  rw [labelPatch]
  cases path with
  | nil => exact absurd (.inl (List.nil_prefix ..)) h
  | cons key path =>
    by_cases hkey : key = "metadata"
    · subst hkey
      rw [Json.at?_merge_object_self]
      cases path with
      | nil => exact absurd (.inl ⟨["labels"], rfl⟩) h
      | cons key path =>
        by_cases hkey : key = "labels"
        · subst hkey
          rw [Json.at?_merge_object_self]
          cases path with
          | nil => exact absurd (.inl ⟨[], rfl⟩) h
          | cons key path =>
            have hnone : labels.entries.lookup key = none := by
              cases hfind : labels.find? key with
              | none => exact hfind
              | some value => exact absurd (.inr ⟨key, value, hfind, path, rfl⟩) h
            rw [Json.at?_cons, Json.member?_merge_texts labels.sorted, hnone,
              Json.member?_getD_null, Json.member?_getD_null]
            simp only [Option.map_none, Option.none_or, Option.bind_assoc]
            rfl
        · rw [Json.at?_merge_object_of_ne hkey, Json.at?_getD_null]
          rfl
    · exact Json.at?_merge_object_of_ne hkey ..

/-- What a label patch makes of a document is the document of a node. -/
theorem isNodeDocument_merge_labelPatch (document : Json) (labels : LabelMap) :
    isNodeDocument (Json.merge document (labelPatch labels)) = true := by
  have hlabels : ((Json.merge document (labelPatch labels)).at? ["metadata", "labels"]).all
      Json.isObject = true := by
    rw [labelPatch, Json.at?_merge_object_self, Json.at?_merge_object_self, Json.at?_nil,
      Option.all_some, Json.isObject_merge_object]
  have hmetadata : ((Json.merge document (labelPatch labels)).at? ["metadata"]).any
      Json.isObject = true := by
    rw [labelPatch, Json.at?_merge_object_self, Json.at?_nil, Option.any_some,
      Json.isObject_merge_object]
  rw [isNodeDocument, hlabels, hmetadata, labelPatch, Json.isObject_merge_object]
  rfl

theorem idempotent_labelPatch (document : Json) (labels : LabelMap) :
    Json.merge (Json.merge document (labelPatch labels)) (labelPatch labels) =
      Json.merge document (labelPatch labels) :=
  Json.idempotent_member
    (Json.idempotent_member (Json.idempotent_texts labels.sorted) "labels") "metadata" document

theorem composes_labelPatch (document : Json) (first second : LabelMap) :
    Json.Same
      (Json.merge (Json.merge document (labelPatch first)) (labelPatch second))
      (Json.merge document (labelPatch (first.override second))) :=
  Json.composes_member
    (Json.composes_member (Json.composes_texts first second) "labels") "metadata" document

/-- The patch sets its labels, takes no label away and leaves all else as it was: every part of the
document that it does not reach is the same, and missing if it was missing. A second time it changes
nothing, and with another patch after it, it comes to the patch of both label maps, up to the order
of the labels that are new. -/
theorem merge_labelPatch_frame (document : Json) (labels : LabelMap) :
    (∀ key, label? (Json.merge document (labelPatch labels)) key =
      ((labels.find? key).map Json.string).or (label? document key)) ∧
    (∀ key, (label? document key).isSome →
      (label? (Json.merge document (labelPatch labels)) key).isSome) ∧
    (∀ path, ¬ Reaches labels path →
      (Json.merge document (labelPatch labels)).at? path = document.at? path) ∧
    isNodeDocument (Json.merge document (labelPatch labels)) = true ∧
    Json.merge (Json.merge document (labelPatch labels)) (labelPatch labels) =
      Json.merge document (labelPatch labels) ∧
    ∀ later, Json.Same
      (Json.merge (Json.merge document (labelPatch labels)) (labelPatch later))
      (Json.merge document (labelPatch (labels.override later))) := by
  have hlabel := label?_merge_labelPatch document labels
  refine ⟨hlabel, ?_, ?_, isNodeDocument_merge_labelPatch document labels,
    idempotent_labelPatch document labels, composes_labelPatch document labels⟩
  · intro key hkey
    rw [hlabel key, Option.isSome_or, hkey, Bool.or_true]
  · intro path hpath
    exact at?_merge_labelPatch hpath document

end Cluster

end NodeLabels
