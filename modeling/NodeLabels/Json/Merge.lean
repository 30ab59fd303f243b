import NodeLabels.Entries
import NodeLabels.Json.Basic
/-!
# Merge patches

Applying one JSON document to another as RFC 7386 says: members of the patch replace those of the
target, objects being merged member by member, and a null removes a member.
-/

namespace NodeLabels.Json

/-- Gives the member a value: in its place if it is there, at the end if not. -/
def setMember (key : String) (value : Json) : List (String × Json) → List (String × Json)
  | [] => [(key, value)]
  | m :: ms => if m.1 = key then (key, value) :: ms else m :: setMember key value ms

def removeMember (key : String) (members : List (String × Json)) : List (String × Json) :=
  members.filter (·.1 ≠ key)

def members : Json → List (String × Json)
  | .object members => members
  | _ => []

mutual

def merge (target : Json) : Json → Json
  | .object patch => .object (mergeMembers target.members patch)
  | patch => patch

def mergeMembers (target : List (String × Json)) : List (String × Json) → List (String × Json)
  | [] => target
  | (key, .null) :: patch => mergeMembers (removeMember key target) patch
  | (key, value) :: patch =>
    mergeMembers (setMember key (merge ((target.lookup key).getD .null) value) target) patch

end

@[simp] theorem lookup_setMember (key k : String) (value : Json) (ms : List (String × Json)) :
    (setMember key value ms).lookup k = if k = key then some value else ms.lookup k := by
  induction ms with
  | nil => rw [setMember, lookup_entry_cons]
  | cons m ms ih =>
    rw [setMember]
    by_cases hm : m.1 = key
    · rw [if_pos hm, lookup_entry_cons, lookup_entry_cons]
      by_cases h : k = key
      · rw [if_pos h, if_pos h]
      · rw [if_neg h, if_neg h, if_neg (hm ▸ h)]
    · rw [if_neg hm, lookup_entry_cons, lookup_entry_cons, ih]
      by_cases h : k = key
      · rw [if_pos h, if_pos h, if_neg fun e => hm (e.symm.trans h)]
      · rw [if_neg h, if_neg h]

end NodeLabels.Json
