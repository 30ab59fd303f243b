import NodeLabels.Proofs.Cloud.Gets
import NodeLabels.Proofs.Cluster.Operator
import NodeLabels.Proofs.Topology.Cycle
import NodeLabels.Topology.OverHttp
/-!
# Topology cycles in a dry run

A cycle in a dry run next to the same cycle in earnest: it reads the same, and succeeds where
nothing but the patch was in the way.
-/

namespace NodeLabels.Topology

open Cluster.Operator (patchCalls patchLabels_alike)
open Machine (Agree Alike IgnoresPatches exchange_patchless)

def Services.withDryRun (s : Services) (dryRun : Bool) : Services :=
  { s with nodes := { s.nodes with dryRun } }

def readsMetadata (c : port.Call) : Bool :=
  match c with
  | .instanceName | .physicalHost => true
  | _ => false

/-- How a cycle ends in earnest and in a dry run, and what is sent for its patch in earnest. -/
inductive SparedCycle (client : Cluster.Client) :
    Except LabelFault Update → Except LabelFault Update → List Machine.port.Call → Prop
  | unavailable (what : String) (fault : SourceFault) :
      SparedCycle client (.error (.unavailable what fault)) (.error (.unavailable what fault)) []
  | malformed (what value : String) :
      SparedCycle client (.error (.malformed what value)) (.error (.malformed what value)) []
  | labeled (u : Update) :
      SparedCycle client (.ok u) (.ok u) (patchCalls client u.node u.placement.labels)
  | refused (u : Update) (failure : Failure) :
      SparedCycle client (.error (.patch u.node failure)) (.ok u)
        (patchCalls client u.node u.placement.labels)

theorem SparedCycle.isOk_iff {client : Cluster.Client}
    {x y : Except Halt (Except LabelFault Update)} {ps : List Machine.port.Call}
    (h : Agree (SparedCycle client · · ps) x y) :
    (∃ u, y = .ok (.ok u)) ↔
      (∃ u, x = .ok (.ok u)) ∨ ∃ node failure, x = .ok (.error (.patch node failure)) := by
  cases h with
  | halted why => simp
  | returned h => cases h <;> simp

section

variable {σ τ : Type} {reply : (c : Machine.port.Call) → σ → Machine.port.Reply c × σ}
  {view : σ → τ} (hworld : IgnoresPatches reply view) (services : Services)
include hworld

theorem answer_alike {c : port.Call} (hc : readsMetadata c = true) :
    Alike reply view ((services.withDryRun false).answer c) ((services.withDryRun true).answer c)
      fun a b ps => a = b ∧ ps = [] := by
  cases c with
  | instanceName =>
    have hgets := services.metadata.get_onlyGets Cloud.Metadata.namePath
    exact .refl hworld (exchange_patchless hgets _)
  | physicalHost =>
    have hgets := services.metadata.get_onlyGets Cloud.Metadata.physicalHostPath
    exact .refl hworld (exchange_patchless hgets _)
  | patch node labels => exact nomatch hc
  | count outcome => exact nomatch hc
  | stampSuccess => exact nomatch hc
  | pause interval => exact nomatch hc

theorem patch_alike (node : String) (labels : LabelMap) :
    Alike reply view ((services.withDryRun false).answer (.patch node labels))
      ((services.withDryRun true).answer (.patch node labels))
      fun _ b ps => b = .ok () ∧ ps = patchCalls services.nodes.client node labels :=
  patchLabels_alike hworld services.nodes node labels

theorem cycle_spared :
    Alike reply view (cycle.translate (services.withDryRun false).answer)
      (cycle.translate (services.withDryRun true).answer) (SparedCycle services.nodes.client) := by
  unfold cycle
  refine (answer_alike hworld services rfl).read_bind fun name => ?_
  cases name with
  | error fault => exact .done (.unavailable _ _)
  | ok name =>
    dsimp only
    split
    · exact .done (.malformed _ _)
    refine (answer_alike hworld services rfl).read_bind fun raw => ?_
    cases raw with
    | error fault => exact .done (.unavailable _ _)
    | ok raw =>
      dsimp only
      cases hplace : Placement.parse raw with
      | error fault =>
        obtain rfl := Placement.parse_error hplace
        exact .done (.malformed _ _)
      | ok p =>
        have hpatch := patch_alike hworld services (Text.trim name) p.labels
        refine Alike.ask_bind hpatch ?_
        intro answer b ps hsent
        rw [hsent.1, hsent.2]
        cases answer with
        | error failure =>
          refine Alike.tell_right (.done ?_) _
          rw [List.append_nil]
          exact .refused { node := Text.trim name, placement := p } failure
        | ok =>
          refine Alike.tell_bind (.done ?_) _ _
          rw [List.append_nil]
          exact .labeled { node := Text.trim name, placement := p }

end

end NodeLabels.Topology
