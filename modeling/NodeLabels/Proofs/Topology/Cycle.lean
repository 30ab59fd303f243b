import NodeLabels.Proofs.Dialogue.Exchange
import NodeLabels.Topology.Cycle
/-!
# One cycle

How a cycle can end, and what was asked and written by then, whatever the world answers. `Cycled`
has one rule for each ending. A cycle that is counted exchanges the same, and then what there is to
note about its result.
-/

namespace NodeLabels

namespace Placement

theorem entries_labels (p : Placement) :
    p.labels.entries =
      [(Label.cluster, p.cluster), (Label.host, p.host), (Label.rack, p.rack)] := by
  have rack_cluster : ¬ Label.rack < Label.cluster ∧ Label.rack ≠ Label.cluster := by decide +kernel
  have host_cluster : ¬ Label.host < Label.cluster ∧ Label.host ≠ Label.cluster := by decide +kernel
  have host_rack : Label.host < Label.rack := by decide +kernel
  change LabelMap.insertEntry Label.host p.host (LabelMap.insertEntry Label.rack p.rack
    (LabelMap.insertEntry Label.cluster p.cluster [])) = _
  simp only [LabelMap.insertEntry, rack_cluster, host_cluster, host_rack, if_true, if_false]

theorem parse_error {raw : String} {fault : LabelFault} (h : parse raw = .error fault) :
    fault = .malformed "physical host" raw := by
  unfold parse at h
  split at h <;> cases h
  rfl

end Placement

namespace Topology

open Dialogue (Exchange Returns)

def nameRead (answer : Except SourceFault String) : Exchange port := ⟨Call.instanceName, answer⟩

def hostRead (answer : Except SourceFault String) : Exchange port := ⟨Call.physicalHost, answer⟩

def patched (node : String) (labels : LabelMap) (answer : Except Failure Unit) : Exchange port :=
  ⟨Call.patch node labels, answer⟩

@[simp] theorem hostRead_inj {answer answer' : Except SourceFault String} :
    hostRead answer = hostRead answer' ↔ answer = answer' := by
  constructor
  · rintro ⟨⟩
    rfl
  · rintro rfl
    rfl

@[simp] theorem patched_inj {node node' : String} {labels labels' : LabelMap}
    {answer answer' : Except Failure Unit} :
    patched node labels answer = patched node' labels' answer' ↔
      node = node' ∧ labels = labels' ∧ answer = answer' := by
  constructor
  · rintro ⟨⟩
    exact ⟨rfl, rfl, rfl⟩
  · rintro ⟨rfl, rfl, rfl⟩
    rfl

def stamped : Exchange port := ⟨Call.stampSuccess, ()⟩

def counted (o : Outcome) : Exchange port := ⟨Call.count o, ()⟩

/-- What came of a cycle. -/
inductive Cycled : Except LabelFault Update → List (Exchange port) → Prop
  | nameless (fault : SourceFault) :
      Cycled (.error (.unavailable "node name" fault)) [nameRead (.error fault)]
  | blank {name : String} (hname : Text.trim name = "") :
      Cycled (.error (.malformed "node name" "")) [nameRead (.ok name)]
  | homeless {name : String} (hname : Text.trim name ≠ "") (fault : SourceFault) :
      Cycled (.error (.unavailable "physical host" fault))
        [nameRead (.ok name), hostRead (.error fault)]
  | misplaced {name raw : String} (hname : Text.trim name ≠ "")
      (hplace : ∀ p, Placement.parse raw ≠ .ok p) :
      Cycled (.error (.malformed "physical host" raw)) [nameRead (.ok name), hostRead (.ok raw)]
  | labeled {name raw : String} {p : Placement} (hname : Text.trim name ≠ "")
      (hplace : Placement.parse raw = .ok p) :
      Cycled (.ok { node := Text.trim name, placement := p })
        [nameRead (.ok name), hostRead (.ok raw), patched (Text.trim name) p.labels (.ok ())]
  | refused {name raw : String} {p : Placement} (hname : Text.trim name ≠ "")
      (hplace : Placement.parse raw = .ok p) (failure : Failure) :
      Cycled (.error (.patch (Text.trim name) failure))
        [nameRead (.ok name), hostRead (.ok raw),
          patched (Text.trim name) p.labels (.error failure)]

/-- What is noted about a result. -/
def notes : Except LabelFault Update → List (Exchange port)
  | .ok _ => [stamped, counted .labeled]
  | .error fault => [counted (outcome (.error fault))]

section

variable {σ : Type} (reply : (c : port.Call) → σ → port.Reply c × σ)

theorem cycle_cycled (s : σ) :
    ∃ result t log, Returns reply cycle s result t log ∧ Cycled result log := by
  unfold cycle
  rcases hname : reply Call.instanceName s with ⟨answer, t⟩
  have askName := Returns.ask (P := port) hname
  cases answer with
  | error fault => exact ⟨_, t, _, askName.bind_silent (.done _ t), .nameless fault⟩
  | ok name =>
    by_cases hblank : Text.trim name = ""
    · refine ⟨_, t, _, askName.bind_silent ?_, .blank hblank⟩
      simp only [hblank, if_true]
      exact .done _ t
    rcases hhost : reply Call.physicalHost t with ⟨answer, u⟩
    have askHost := Returns.ask (P := port) hhost
    cases answer with
    | error fault =>
      refine ⟨_, u, _, askName.bind ?_, .homeless hblank fault⟩
      simp only [hblank, if_false]
      exact askHost.bind_silent (.done _ u)
    | ok raw =>
      cases hplace : Placement.parse raw with
      | error fault =>
        obtain rfl := Placement.parse_error hplace
        have hnone : ∀ p, Placement.parse raw ≠ .ok p := fun p h => nomatch hplace.symm.trans h
        refine ⟨_, u, _, askName.bind ?_, .misplaced hblank hnone⟩
        simp only [hblank, if_false]
        refine askHost.bind_silent ?_
        simp only [hplace]
        exact .done _ u
      | ok p =>
        rcases hpatch : reply (Call.patch (Text.trim name) p.labels) u with ⟨answer, v⟩
        have askPatch := Returns.ask (P := port) hpatch
        cases answer with
        | error failure =>
          refine ⟨_, v, _, askName.bind ?_, .refused hblank hplace failure⟩
          simp only [hblank, if_false]
          refine askHost.bind ?_
          simp only [hplace]
          exact askPatch.bind_silent (.done _ v)
        | ok =>
          refine ⟨_, v, _, askName.bind ?_, .labeled hblank hplace⟩
          simp only [hblank, if_false]
          refine askHost.bind ?_
          simp only [hplace]
          exact askPatch.bind_silent (.tell_done _ _ v)

/-- A counted cycle exchanges what the cycle does, and then notes its result. -/
theorem update_of_cycle {s t : σ} {result : Except LabelFault Update} {log : List (Exchange port)}
    (hcycle : Returns reply cycle s result t log) :
    ∃ u, Returns reply update s result u (log ++ notes result) := by
  unfold update
  cases result with
  | error fault =>
    rcases hcount : reply (Call.count (outcome (.error fault))) t with ⟨noted, u⟩
    refine ⟨u, hcycle.bind (Returns.tell_bind ?_ _)⟩
    exact (Returns.ask (P := port) hcount).bind_silent (.done _ u)
  | ok update =>
    rcases hstamp : reply Call.stampSuccess t with ⟨noted, u⟩
    rcases hcount : reply (Call.count .labeled) u with ⟨noted, v⟩
    refine ⟨v, hcycle.bind ?_⟩
    exact (Returns.ask (P := port) hstamp).bind
      ((Returns.ask (P := port) hcount).bind_silent (.done _ v))

end

end Topology

end NodeLabels
