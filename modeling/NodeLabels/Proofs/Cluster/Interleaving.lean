import Mathlib.Data.List.Induction
import NodeLabels.Proofs.Cluster.Patch
/-!
# Patches from several writers

A server that takes the patches of several writers one after the other, in whatever order. A label
that only one of the writers sets is left, in the end, as the last patch of that writer has it: the
others might as well not be there.
-/

namespace NodeLabels.Cluster

/-- A node and the labels that it is to get. -/
abbrev Patch := String × LabelMap

/-- The server merges the body of a patch into the document of its node. -/
def serve (documents : String → Json) (p : Patch) (node : String) : Json :=
  if node = p.1 then Json.merge (documents node) (labelPatch p.2) else documents node

def serveAll (documents : String → Json) (patches : List Patch) : String → Json :=
  patches.foldl serve documents

/-- The labels in the last patch of a node. -/
def lastPatch? (patches : List Patch) (node : String) : Option LabelMap :=
  (patches.filter (·.1 = node)).getLast?.map Prod.snd

/-- A label as the last patch has it, or as it was if there was none. -/
def labelAfter (last : Option LabelMap) (key : String) (initial : Option Json) : Option Json :=
  match last with
  | some labels => (labels.find? key).map .string
  | none => initial

theorem label?_serve (documents : String → Json) (p : Patch) (node key : String) :
    label? (serve documents p node) key =
      if p.1 = node then ((p.2.find? key).map Json.string).or (label? (documents node) key)
      else label? (documents node) key := by
  unfold serve
  by_cases hnode : p.1 = node
  · rw [if_pos hnode.symm, if_pos hnode, label?_merge_labelPatch]
  · rw [if_neg (Ne.symm hnode), if_neg hnode]

theorem lastPatch?_concat (patches : List Patch) (p : Patch) (node : String) :
    lastPatch? (patches ++ [p]) node =
      if p.1 = node then some p.2 else lastPatch? patches node := by
  unfold lastPatch?
  rw [List.filter_append]
  by_cases hnode : p.1 = node
  · rw [List.filter_cons_of_pos (by simpa using hnode), List.filter_nil, if_pos hnode]
    simp
  · rw [List.filter_cons_of_neg (by simpa using hnode), List.filter_nil, if_neg hnode,
      List.append_nil]

/-- A node with a patch has a last one. -/
theorem exists_lastPatch? {patches : List Patch} {node : String} {labels : LabelMap}
    (h : (node, labels) ∈ patches) :
    ∃ last, lastPatch? patches node = some last ∧ (node, last) ∈ patches := by
  induction patches using List.reverseRecOn with
  | nil => exact nomatch h
  | append_singleton patches p ih =>
    rw [lastPatch?_concat]
    by_cases hnode : p.1 = node
    · refine ⟨p.2, if_pos hnode, ?_⟩
      rw [← hnode]
      exact List.mem_append_right _ (List.mem_singleton.2 rfl)
    · have hmem : (node, labels) ∈ patches := by
        obtain h | h := List.mem_append.1 h
        · exact h
        · exact absurd (congrArg Prod.fst (List.mem_singleton.1 h)).symm hnode
      obtain ⟨last, hlast, hin⟩ := ih hmem
      exact ⟨last, (if_neg hnode).trans hlast, List.mem_append_left _ hin⟩

/-- The label follows the patches of the one writer that sets it, whatever the others send in
between. -/
theorem label?_serveAll {α : Type} (patchOf : α → Patch) (own? : α → Option Patch) {key : String}
    (documents : String → Json) (node : String) {steps : List α}
    (hsteps : ∀ x ∈ steps,
      own? x = some (patchOf x) ∧ (∃ value, (patchOf x).2.find? key = some value) ∨
        own? x = none ∧ (patchOf x).2.find? key = none) :
    label? (serveAll documents (steps.map patchOf) node) key =
      labelAfter (lastPatch? (steps.filterMap own?) node) key (label? (documents node) key) := by
  induction steps using List.reverseRecOn with
  | nil => rfl
  | append_singleton steps x ih =>
    have hbefore := ih fun y hy => hsteps y (List.mem_append_left _ hy)
    have hserve : serveAll documents ((steps ++ [x]).map patchOf) =
        serve (serveAll documents (steps.map patchOf)) (patchOf x) := by
      simp [serveAll]
    rw [hserve, label?_serve, hbefore, List.filterMap_append]
    obtain ⟨hown, value, hvalue⟩ | ⟨hother, hnone⟩ :=
      hsteps x (List.mem_append_right _ (List.mem_singleton.2 rfl))
    · rw [List.filterMap_cons_some hown, List.filterMap_nil, lastPatch?_concat]
      by_cases hnode : (patchOf x).1 = node
      · rw [if_pos hnode, if_pos hnode, labelAfter, hvalue]
        rfl
      · rw [if_neg hnode, if_neg hnode]
    · rw [List.filterMap_cons_none hother, List.filterMap_nil, List.append_nil, hnone]
      exact ite_self _

end NodeLabels.Cluster
