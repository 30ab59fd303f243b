import NodeLabels.Proofs.Prediction.Answers
import NodeLabels.Proofs.Prediction.Patches
import NodeLabels.Proofs.Topology.Patches
import NodeLabels.Proofs.Topology.Script
/-!
# Both jobs on one cluster

The two jobs set different labels, and each patch of the topology job sets all three of its labels.
So their patches can reach the server in any order: each label follows the job that sets it, and the
topology labels of a node always belong together.
-/

namespace NodeLabels

open Cluster (Patch label? labelAfter lastPatch? serveAll)
open Dialogue (Exchange)

/-! ## Who sets what -/

theorem Placement.exists_find?_labels (p : Placement) {key : String}
    (h : key ∈ Topology.labelKeys) : ∃ value, p.labels.find? key = some value := by
  rw [find?_labels]
  split_ifs with hhost hrack hcluster
  · exact ⟨_, rfl⟩
  · exact ⟨_, rfl⟩
  · exact ⟨_, rfl⟩
  · obtain rfl | rfl | rfl := Topology.mem_labelKeys.1 h
    · exact absurd rfl hcluster
    · exact absurd rfl hrack
    · exact absurd rfl hhost

theorem Placement.find?_labels_eq_none (p : Placement) {key : String}
    (h : key ∉ Topology.labelKeys) : p.labels.find? key = none := by
  rw [Topology.mem_labelKeys, not_or, not_or] at h
  rw [find?_labels, if_neg h.2.2, if_neg h.2.1, if_neg h.1]

theorem recommendation_not_mem_labelKeys : Label.recommendation ∉ Topology.labelKeys := by
  decide +kernel

/-! ## Interleavings -/

/-- The patches as the server takes them, those of the topology job on the left. -/
def merged (steps : List (Patch ⊕ Patch)) : List Patch := steps.map (Sum.elim id id)

def byTopology (steps : List (Patch ⊕ Patch)) : List Patch := steps.filterMap Sum.getLeft?

def byPrediction (steps : List (Patch ⊕ Patch)) : List Patch := steps.filterMap Sum.getRight?

/-- The patches are what the two jobs write. -/
structure Written (steps : List (Patch ⊕ Patch)) : Prop where
  left : ∀ p, .inl p ∈ steps → ∃ place : Placement, p.2 = place.labels
  right : ∀ p, .inr p ∈ steps → ∃ value, p.2 = Prediction.recommendation value

section

variable {steps : List (Patch ⊕ Patch)} (h : Written steps) (documents : String → Json)
  (node : String)
include h

theorem Written.label?_topology {key : String} (hkey : key ∈ Topology.labelKeys) :
    label? (serveAll documents (merged steps) node) key =
      labelAfter (lastPatch? (byTopology steps) node) key (label? (documents node) key) := by
  apply Cluster.label?_serveAll
  intro x hx
  cases x with
  | inl p =>
    obtain ⟨place, hplace⟩ := h.left p hx
    exact .inl ⟨rfl, hplace ▸ place.exists_find?_labels hkey⟩
  | inr p =>
    obtain ⟨value, hvalue⟩ := h.right p hx
    have hne : key ≠ Label.recommendation :=
      fun heq => recommendation_not_mem_labelKeys (heq ▸ hkey)
    refine .inr ⟨rfl, ?_⟩
    exact hvalue ▸ (Prediction.find?_recommendation value key).trans (if_neg hne)

theorem Written.label?_recommendation :
    label? (serveAll documents (merged steps) node) Label.recommendation =
      labelAfter (lastPatch? (byPrediction steps) node) Label.recommendation
        (label? (documents node) Label.recommendation) := by
  apply Cluster.label?_serveAll
  intro x hx
  cases x with
  | inl p =>
    obtain ⟨place, hplace⟩ := h.left p hx
    exact .inr ⟨rfl, hplace ▸ place.find?_labels_eq_none recommendation_not_mem_labelKeys⟩
  | inr p =>
    obtain ⟨value, hvalue⟩ := h.right p hx
    refine .inl ⟨rfl, value, ?_⟩
    exact hvalue ▸ (Prediction.find?_recommendation value _).trans (if_pos rfl)

theorem Written.label?_other {key : String} (htopology : key ∉ Topology.labelKeys)
    (hprediction : key ≠ Label.recommendation) :
    label? (serveAll documents (merged steps) node) key = label? (documents node) key := by
  have hsteps : ∀ x ∈ steps, (none : Option Patch) = some (Sum.elim id id x) ∧
      (∃ value, (Sum.elim id id x : Patch).2.find? key = some value) ∨
        (none : Option Patch) = none ∧ (Sum.elim id id x : Patch).2.find? key = none := by
    intro x hx
    refine .inr ⟨rfl, ?_⟩
    cases x with
    | inl p =>
      obtain ⟨place, hplace⟩ := h.left p hx
      exact hplace ▸ place.find?_labels_eq_none htopology
    | inr p =>
      obtain ⟨value, hvalue⟩ := h.right p hx
      exact hvalue ▸ (Prediction.find?_recommendation value key).trans (if_neg hprediction)
  have hnone : steps.filterMap (fun _ => (none : Option Patch)) = [] :=
    List.filterMap_eq_nil_iff.2 fun _ _ => rfl
  have hfollow := Cluster.label?_serveAll (Sum.elim id id) (fun _ => none) documents node hsteps
  rw [hnone] at hfollow
  exact hfollow

end

theorem Written.prefix {before after : List (Patch ⊕ Patch)} (h : Written (before ++ after)) :
    Written before where
  left p hp := h.left p (List.mem_append_left _ hp)
  right p hp := h.right p (List.mem_append_left _ hp)

/-- The topology labels of a node are the parts of one placement. -/
theorem Written.label?_placed {steps : List (Patch ⊕ Patch)} (h : Written steps)
    (documents : String → Json) {node : String} {place : Placement}
    (hlast : lastPatch? (byTopology steps) node = some place.labels) :
    label? (serveAll documents (merged steps) node) Label.cluster = some (.string place.cluster) ∧
    label? (serveAll documents (merged steps) node) Label.rack = some (.string place.rack) ∧
    label? (serveAll documents (merged steps) node) Label.host = some (.string place.host) := by
  have hkeys : Label.cluster ≠ Label.host ∧ Label.cluster ≠ Label.rack ∧
      Label.rack ≠ Label.host := by decide +kernel
  refine ⟨?_, ?_, ?_⟩
  · rw [h.label?_topology documents node (by simp [Topology.mem_labelKeys]), hlast, labelAfter,
      place.find?_labels, if_neg hkeys.1, if_neg hkeys.2.1, if_pos rfl, Option.map_some]
  · rw [h.label?_topology documents node (by simp [Topology.mem_labelKeys]), hlast, labelAfter,
      place.find?_labels, if_neg hkeys.2.2, if_pos rfl, Option.map_some]
  · rw [h.label?_topology documents node (by simp [Topology.mem_labelKeys]), hlast, labelAfter,
      place.find?_labels, if_pos rfl, Option.map_some]

/-! ## Runs -/

/-- What the topology job read in some runs. -/
def readings (cycles : List (List (Exchange Topology.port))) : List String :=
  cycles.flatMap (·.filterMap Topology.reading?)

section

variable {cycles : List (List (Exchange Topology.port))}
  {passes : List (List (Exchange Prediction.port))} {steps : List (Patch ⊕ Patch)}

theorem exists_reading (hcycles : ∀ log ∈ cycles, Topology.IsRun log) {p : Patch}
    (hp : p ∈ cycles.flatMap (·.filterMap Topology.patch?)) :
    ∃ raw ∈ readings cycles, ∃ place, Placement.parse raw = .ok place ∧ p.2 = place.labels := by
  obtain ⟨log, hlog, hp⟩ := List.mem_flatMap.1 hp
  obtain ⟨raw, hraw, hplace⟩ := (hcycles log hlog).placed p hp
  exact ⟨raw, List.mem_flatMap.2 ⟨log, hlog, hraw⟩, hplace⟩

theorem written_of_runs (hcycles : ∀ log ∈ cycles, Topology.IsRun log)
    (hpasses : ∀ log ∈ passes, Prediction.IsRun log)
    (hleft : (byTopology steps).Sublist (cycles.flatMap (·.filterMap Topology.patch?)))
    (hright : (byPrediction steps).Sublist (passes.flatMap (·.filterMap Prediction.patch?))) :
    Written steps where
  left p hp := by
    have hmem : p ∈ byTopology steps := List.mem_filterMap.2 ⟨.inl p, hp, rfl⟩
    obtain ⟨raw, -, place, -, hplace⟩ := exists_reading hcycles (hleft.subset hmem)
    exact ⟨place, hplace⟩
  right p hp := by
    have hmem : p ∈ byPrediction steps := List.mem_filterMap.2 ⟨.inr p, hp, rfl⟩
    obtain ⟨log, hlog, hp⟩ := List.mem_flatMap.1 (hright.subset hmem)
    exact (hpasses log hlog).recommends hp

end

/-- The server takes patches that the two jobs issue in any number of runs, each job's in their
order and those of the two in between each other. It may lose some. In the end every label of every
node is as the job that sets it left it, and as it was at first if that job sent no patch or sets no
such label; so it does not matter how the patches were interleaved. And at all times after the first
topology patch of a node its topology labels are the parts of one reading. -/
theorem jobs_coexist (documents : String → Json) {cycles : List (List (Exchange Topology.port))}
    {passes : List (List (Exchange Prediction.port))}
    (hcycles : ∀ log ∈ cycles, Topology.IsRun log) (hpasses : ∀ log ∈ passes, Prediction.IsRun log)
    {steps : List (Patch ⊕ Patch)}
    (hleft : (byTopology steps).Sublist (cycles.flatMap (·.filterMap Topology.patch?)))
    (hright : (byPrediction steps).Sublist (passes.flatMap (·.filterMap Prediction.patch?))) :
    (∀ node key,
      (key ∈ [Label.cluster, Label.rack, Label.host] →
        label? (serveAll documents (merged steps) node) key =
          labelAfter (lastPatch? (byTopology steps) node) key (label? (documents node) key)) ∧
      (key = Label.recommendation →
        label? (serveAll documents (merged steps) node) key =
          labelAfter (lastPatch? (byPrediction steps) node) key (label? (documents node) key)) ∧
      (key ∉ [Label.cluster, Label.rack, Label.host, Label.recommendation] →
        label? (serveAll documents (merged steps) node) key = label? (documents node) key)) ∧
    (∀ steps', byTopology steps' = byTopology steps → byPrediction steps' = byPrediction steps →
      ∀ node key, label? (serveAll documents (merged steps') node) key =
        label? (serveAll documents (merged steps) node) key) ∧
    ∀ before after, steps = before ++ after → ∀ node labels, .inl (node, labels) ∈ before →
      ∃ raw ∈ readings cycles, ∃ place, Placement.parse raw = .ok place ∧
        label? (serveAll documents (merged before) node) Label.cluster =
          some (.string place.cluster) ∧
        label? (serveAll documents (merged before) node) Label.rack = some (.string place.rack) ∧
        label? (serveAll documents (merged before) node) Label.host =
          some (.string place.host) := by
  have hwritten := written_of_runs hcycles hpasses hleft hright
  refine ⟨fun node key => ⟨?_, ?_, ?_⟩, ?_, ?_⟩
  · intro hkey
    exact hwritten.label?_topology documents node hkey
  · intro hkey
    rw [hkey]
    exact hwritten.label?_recommendation documents node
  · intro hkey
    simp only [List.mem_cons, List.not_mem_nil, or_false, not_or] at hkey
    refine hwritten.label?_other documents node ?_ hkey.2.2.2
    simp [Topology.mem_labelKeys, hkey]
  · intro steps' hsame hsame' node key
    have hwritten' : Written steps' :=
      written_of_runs hcycles hpasses (hsame ▸ hleft) (hsame' ▸ hright)
    by_cases htopology : key ∈ Topology.labelKeys
    · rw [hwritten'.label?_topology documents node htopology,
        hwritten.label?_topology documents node htopology, hsame]
    · by_cases hprediction : key = Label.recommendation
      · rw [hprediction, hwritten'.label?_recommendation, hwritten.label?_recommendation, hsame']
      · rw [hwritten'.label?_other documents node htopology hprediction,
          hwritten.label?_other documents node htopology hprediction]
  · rintro before after rfl node labels hmem
    have hbefore : (node, labels) ∈ byTopology before := List.mem_filterMap.2 ⟨_, hmem, rfl⟩
    obtain ⟨last, hlast, hin⟩ := Cluster.exists_lastPatch? hbefore
    have hsub : (byTopology before).Sublist (byTopology (before ++ after)) :=
      (List.sublist_append_left before after).filterMap _
    obtain ⟨raw, hraw, place, hplace, rfl⟩ := exists_reading hcycles ((hsub.trans hleft).subset hin)
    exact ⟨raw, hraw, place, hplace, hwritten.prefix.label?_placed documents hlast⟩

/-! ## A node that moves while its instance degrades -/

/-- A cycle on the node `a` at this place. -/
def cycleAt (place : String) : List (Exchange Topology.port) :=
  let answers : Topology.Answers := { name := .ok "a", host := .ok place, verdict := .ok () }
  Topology.update.exchanges (fun c _ => (answers.answer c, ())) ()

theorem isRun_cycleAt (place : String) : Topology.IsRun (cycleAt place) := by
  let answers : Topology.Answers := { name := .ok "a", host := .ok place, verdict := .ok () }
  exact ⟨Unit, fun c _ => (answers.answer c, ()), (), .inl rfl⟩

def degradingPass : List (Exchange Prediction.port) :=
  let nodes := [Prediction.gpuNode "a" "DEGRADATION_PREDICTED"]
  (Prediction.passOrReport Prediction.plainSettings).exchanges
    (Prediction.plainAnswers.world (.ok nodes) Prediction.swinging) 0

/-- The recommendation gets between the two places. -/
def movingSteps : List (Patch ⊕ Patch) :=
  [.inl ("a", (Placement.mk "c" "r" "h").labels),
    .inr ("a", Prediction.recommendation "False"),
    .inl ("a", (Placement.mk "c" "s" "k").labels)]

def poolDocument (_ : String) : Json :=
  .object [("metadata", .object [("labels", .object [("pool", .string "gpu")])])]

/-- It has all of its new place, the recommendation and the label of its pool. -/
theorem jobs_coexist_movingNode :
    let cycles := [cycleAt "/c/r/h", cycleAt "/c/s/k"]
    let node := serveAll poolDocument (merged movingSteps) "a"
    (∀ log ∈ cycles, Topology.IsRun log) ∧ Prediction.IsRun degradingPass ∧
    (byTopology movingSteps).Sublist (cycles.flatMap (·.filterMap Topology.patch?)) ∧
    (byPrediction movingSteps).Sublist
      ([degradingPass].flatMap (·.filterMap Prediction.patch?)) ∧
    label? node Label.rack = some (.string "s") ∧ label? node Label.host = some (.string "k") ∧
    label? node Label.recommendation = some (.string "False") ∧
    label? node "pool" = some (.string "gpu") := by
  have hcycles : ∀ log ∈ [cycleAt "/c/r/h", cycleAt "/c/s/k"], Topology.IsRun log := by
    intro log hlog
    obtain rfl | hlog := List.mem_cons.1 hlog
    · exact isRun_cycleAt _
    · exact List.mem_singleton.1 hlog ▸ isRun_cycleAt _
  have hpass : Prediction.IsRun degradingPass := ⟨Nat, _, 0, Prediction.plainSettings, rfl⟩
  have hleft : (byTopology movingSteps).Sublist
      ([cycleAt "/c/r/h", cycleAt "/c/s/k"].flatMap (·.filterMap Topology.patch?)) := by
    decide +kernel
  have hright : (byPrediction movingSteps).Sublist
      ([degradingPass].flatMap (·.filterMap Prediction.patch?)) := by
    decide +kernel
  obtain ⟨hlabels, -, -⟩ :=
    jobs_coexist poolDocument hcycles (fun _ h => List.mem_singleton.1 h ▸ hpass) hleft hright
  refine ⟨hcycles, hpass, hleft, hright, ?_, ?_, ?_, ?_⟩
  · exact ((hlabels "a" Label.rack).1 (by simp)).trans rfl
  · exact ((hlabels "a" Label.host).1 (by simp)).trans rfl
  · exact ((hlabels "a" Label.recommendation).2.1 rfl).trans rfl
  · exact ((hlabels "a" "pool").2.2 (by decide +kernel)).trans rfl

end NodeLabels
