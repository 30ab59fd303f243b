import NodeLabels.Proofs.Cluster.Interleaving
import NodeLabels.Proofs.Topology.Cycle
/-!
# The patches of the topology job

Each patch of the job sets the three topology labels at once, to the parts of one reading of the
physical host that the job made.
-/

namespace NodeLabels

theorem Placement.find?_labels (p : Placement) (key : String) :
    p.labels.find? key =
      if key = Label.host then some p.host
      else if key = Label.rack then some p.rack
      else if key = Label.cluster then some p.cluster
      else none := by
  simp [labels, LabelMap.ofList]

namespace Topology

open Cluster (Patch)
open Dialogue (Exchange Returns)

/-- The keys that the job sets. -/
def labelKeys : List String := [Label.cluster, Label.rack, Label.host]

theorem mem_labelKeys {key : String} :
    key ∈ labelKeys ↔ key = Label.cluster ∨ key = Label.rack ∨ key = Label.host := by
  simp [labelKeys]

def patch? (x : Exchange port) : Option Patch :=
  match x with
  | ⟨.patch node labels, _⟩ => some (node, labels)
  | _ => none

/-- The text that was read for the physical host, if it was. -/
def reading? (x : Exchange port) : Option String :=
  match x with
  | ⟨.physicalHost, .ok raw⟩ => some raw
  | _ => none

/-- Every patch has the labels of a placement that was read. -/
def Placed (log : List (Exchange port)) : Prop :=
  ∀ p ∈ log.filterMap patch?, ∃ raw ∈ log.filterMap reading?, ∃ place,
    Placement.parse raw = .ok place ∧ p.2 = place.labels

theorem Placed.append {log more : List (Exchange port)} (h : Placed log) (h' : Placed more) :
    Placed (log ++ more) := by
  intro p hp
  rw [List.filterMap_append] at hp ⊢
  obtain hp | hp := List.mem_append.1 hp
  · obtain ⟨raw, hraw, hplace⟩ := h p hp
    exact ⟨raw, List.mem_append_left _ hraw, hplace⟩
  · obtain ⟨raw, hraw, hplace⟩ := h' p hp
    exact ⟨raw, List.mem_append_right _ hraw, hplace⟩

theorem Placed.of_patchless {log : List (Exchange port)} (h : log.filterMap patch? = []) :
    Placed log := by
  intro p hp
  rw [h] at hp
  exact nomatch hp

theorem Placed.bind {σ α β : Type} {reply : (c : port.Call) → σ → port.Reply c × σ}
    {s t : σ} {a : α} {log : List (Exchange port)} {d : Dialogue port α} {f : α → Dialogue port β}
    (h : Placed log) (hd : Returns reply d s a t log) (hf : Placed ((f a).exchanges reply t)) :
    Placed ((d >>= f).exchanges reply s) := by
  rw [hd.exchanges_bind]
  exact h.append hf

theorem Cycled.placed {result : Except LabelFault Update} {log : List (Exchange port)}
    (h : Cycled result log) : Placed log := by
  have hplaced {name raw : String} {place : Placement} (hplace : Placement.parse raw = .ok place)
      (answer : Except Failure Unit) :
      Placed [nameRead (.ok name), hostRead (.ok raw),
        patched (Text.trim name) place.labels answer] := by
    intro p hp
    obtain rfl := List.mem_singleton.1 hp
    exact ⟨raw, List.mem_singleton.2 rfl, place, hplace, rfl⟩
  cases h with
  | nameless fault => exact .of_patchless rfl
  | blank hname => exact .of_patchless rfl
  | homeless hname fault => exact .of_patchless rfl
  | misplaced hname hplace => exact .of_patchless rfl
  | labeled hname hplace => exact hplaced hplace _
  | refused hname hplace failure => exact hplaced hplace _

section

variable {σ : Type} (reply : (c : port.Call) → σ → port.Reply c × σ)

/-- The step lemma: a counted cycle. -/
theorem update_placed (s : σ) :
    ∃ result t log, Returns reply update s result t log ∧ Placed log := by
  obtain ⟨result, t, log, hcycle, hcycled⟩ := cycle_cycled reply s
  obtain ⟨u, hupdate⟩ := update_of_cycle reply hcycle
  have hnotes : Placed (notes result) := by
    cases result with
    | ok update => exact .of_patchless rfl
    | error fault => exact .of_patchless rfl
  exact ⟨result, u, _, hupdate, hcycled.placed.append hnotes⟩

/-- The run lemma: any number of cycles. -/
theorem repeatCycles_placed (interval : Span) (patience : Nat) (s : σ) :
    Placed ((repeatCycles interval patience).exchanges reply s) := by
  induction patience generalizing s with
  | zero => exact .of_patchless rfl
  | succ patience ih =>
    obtain ⟨result, t, log, hupdate, hplaced⟩ := update_placed reply s
    refine hplaced.bind hupdate (f := fun _ => pause interval >>= _) ?_
    rcases hreply : reply (Call.pause interval) t with ⟨wake, u⟩
    have hpause : Placed [(⟨Call.pause interval, wake⟩ : Exchange port)] := .of_patchless rfl
    refine hpause.bind (Returns.ask hreply) ?_
    cases hwake : Wake.stops wake with
    | true =>
      rw [if_pos rfl]
      exact .of_patchless rfl
    | false =>
      rw [if_neg nofun]
      exact ih u

/-- What a job exchanges that runs a single cycle, or one cycle after the other for however long. -/
def IsRun (log : List (Exchange port)) : Prop :=
  ∃ (σ : Type) (reply : (c : port.Call) → σ → port.Reply c × σ) (s : σ),
    log = update.exchanges reply s ∨
      ∃ patience interval, log = (watch patience interval).exchanges reply s

end

theorem IsRun.placed {log : List (Exchange port)} (h : IsRun log) : Placed log := by
  obtain ⟨σ, reply, s, rfl | ⟨patience, interval, rfl⟩⟩ := h
  · obtain ⟨result, t, log, hupdate, hplaced⟩ := update_placed reply s
    rw [hupdate.exchanges]
    exact hplaced
  · exact repeatCycles_placed reply interval patience s

end Topology

end NodeLabels
