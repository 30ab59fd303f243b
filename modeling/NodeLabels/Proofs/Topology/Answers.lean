import NodeLabels.Proofs.Cloud.Fetch
import NodeLabels.Proofs.Cloud.Gets
import NodeLabels.Proofs.Cluster.Operator
import NodeLabels.Proofs.Cluster.Requests
import NodeLabels.Proofs.Topology.Cycle
import NodeLabels.Topology.OverHttp
/-!
# The topology job on a machine

Every call of the topology job is answered, whatever becomes of the requests that are sent for it,
so that a cycle comes to its end on any machine (`exists_result`). In a dry run none of the requests
is a patch.
-/

namespace NodeLabels.Topology

open Dialogue (Returns Within)
open Machine (Patchless exchange_patchless)

section

variable {σ : Type} (reply : (c : Machine.port.Call) → σ → Machine.port.Reply c × σ)
  (services : Services)

theorem Services.answer_returns (c : port.Call) (s : σ) :
    ∃ answer, ((services.answer c).run reply s).value = .ok answer := by
  have hget (path : String) : ∃ answer, ((Machine.exchange services.limit
      (services.metadata.get path)).run reply s).value = .ok answer := by
    rw [Http.value_exchange]
    exact services.metadata.get_returns _ path s
  cases c with
  | instanceName => exact hget Cloud.Metadata.namePath
  | physicalHost => exact hget Cloud.Metadata.physicalHostPath
  | patch node labels =>
    obtain ⟨steps, -, answer, hanswer, -⟩ :=
      Http.exchange_takes (Cluster.patchLabels_takes (Http.server reply none) services.nodes node
        labels) s
    exact ⟨answer, hanswer⟩
  | count outcome => exact ⟨(), rfl⟩
  | stampSuccess => exact ⟨(), rfl⟩
  | pause interval =>
    rcases hpause : reply (Machine.Call.pause interval) s with ⟨interruption, t⟩
    have hask := Returns.ask (P := Machine.port) hpause
    refine ⟨wakeOf interruption, hask.value_bind.trans ?_⟩
    exact congrArg Dialogue.Transcript.value
      (Dialogue.run_tellAll_bind reply (interruptionEvents interruption) _ t)

/-- A cycle comes to an end, and so does the job around it, with the same result. -/
theorem exists_result (s : σ) : ∃ result,
    ((cycle.translate services.answer).run reply s).value = .ok result ∧
      ((update.translate services.answer).run reply s).value = .ok result := by
  -- A cycle ends in every world, so it does in the one that the answers make up.
  obtain ⟨world, hworld⟩ := Dialogue.exists_world (services.answer_returns reply)
  obtain ⟨result, t, log, hcycle, -⟩ := cycle_cycled world s
  obtain ⟨u, hupdate⟩ := update_of_cycle world hcycle
  exact ⟨result, (hworld _ s).trans hcycle.value, (hworld _ s).trans hupdate.value⟩

end

/-- In a dry run nothing is patched. -/
theorem Services.answer_patchless {services : Services} (hdry : services.nodes.dryRun = true)
    (c : port.Call) : Patchless (services.answer c) := by
  cases c with
  | instanceName =>
    exact exchange_patchless (services.metadata.get_onlyGets Cloud.Metadata.namePath) _
  | physicalHost =>
    exact exchange_patchless (services.metadata.get_onlyGets Cloud.Metadata.physicalHostPath) _
  | patch node labels =>
    refine (services.nodes.patchLabels_within node labels).translate fun r hr => ?_
    exact nomatch hr.1.symm.trans hdry
  | count outcome => exact .ask rfl
  | stampSuccess => exact .ask rfl
  | pause interval =>
    refine Within.bind (.ask rfl) fun interruption => ?_
    refine Within.tellAll_bind ?_ fun _ _ => trivial
    exact .done _

end NodeLabels.Topology
