import NodeLabels.Proofs.Cloud.Serves
import NodeLabels.Proofs.Prediction.DryRun
import NodeLabels.Proofs.Topology.DryRun
/-!
# What a dry run spares

Both jobs in a dry run, next to the same jobs in earnest on a machine whose other replies take no
notice of patches.
-/

namespace NodeLabels

open Cloud.Monitoring (document)
open Machine (IgnoresPatches Parallel sendsPatch)
open Prediction (Settings SparedAll SparedPass)
open NodeLabels.Topology (SparedCycle)

/-- A dry run sends no patch and is otherwise the same run: the same calls in the same order, the
same halt if there is one, and the same results but for the patches that fail in earnest. -/
theorem dryRun_spares_patches {σ τ : Type}
    {reply : (c : Machine.port.Call) → σ → Machine.port.Reply c × σ} {view : σ → τ}
    (hworld : IgnoresPatches reply view) {s t : σ} (hview : view s = view t) :
    (∀ (services : Prediction.Services) (patience : Nat) (settings : Settings),
      let real := ((Prediction.pass settings).translate
        ((services.withDryRun false).answer patience)).run reply s
      let dry := ((Prediction.pass settings).translate
        ((services.withDryRun true).answer patience)).run reply t
      (∀ c ∈ dry.calls, sendsPatch c = false) ∧
      Parallel view (SparedPass services.nodes.client) real dry ∧
      dry.value = real.value.map (Except.map Prediction.Summary.spared)) ∧
    (∀ (services : Prediction.Services) (patience : Nat) (settings : Settings) (nodes : List Node),
      let real := ((Prediction.labelNodes settings nodes).translate
        ((services.withDryRun false).answer patience)).run reply s
      let dry := ((Prediction.labelNodes settings nodes).translate
        ((services.withDryRun true).answer patience)).run reply t
      (∀ c ∈ dry.calls, sendsPatch c = false) ∧
      Parallel view (SparedAll services.nodes.client nodes) real dry) ∧
    ∀ services : Topology.Services,
      let real := (Topology.cycle.translate (services.withDryRun false).answer).run reply s
      let dry := (Topology.cycle.translate (services.withDryRun true).answer).run reply t
      (∀ c ∈ dry.calls, sendsPatch c = false) ∧
      Parallel view (SparedCycle services.nodes.client) real dry ∧
      ((∃ u, dry.value = .ok (.ok u)) ↔ (∃ u, real.value = .ok (.ok u)) ∨
        ∃ node failure, real.value = .ok (.error (.patch node failure))) := by
  refine ⟨fun services patience settings => ?_, fun services patience settings nodes => ?_,
    fun services => ?_⟩
  · have h := Prediction.pass_spared hworld services patience settings s t hview
    exact ⟨h.patchless, h, h.value.eq_map fun _ _ hpass => hpass.summary⟩
  · have h := Prediction.labelNodes_spared hworld services patience settings nodes s t hview
    exact ⟨h.patchless, h⟩
  · have h := Topology.cycle_spared hworld services s t hview
    exact ⟨h.patchless, h, Topology.SparedCycle.isOk_iff h.value⟩

/-! ## A cluster that loses the first patch -/

def nodeText : String :=
  "\x7b\"metadata\":\x7b\"name\":\"a\"," ++
    "\"labels\":\x7b\"topology.kubernetes.io/zone\":\"z\"\x7d\x7d," ++
    "\"spec\":\x7b\"providerID\":\"gce://p/z/i\"\x7d\x7d"

/-- One node on an instance that is about to fail. -/
def lossyReads (r : Http.Request) : Http.Reply :=
  if r.origin = "http://k" then
    document ("\x7b\"metadata\":\x7b\x7d,\"items\":[" ++ nodeText ++ "]\x7d")
  else if r.origin = "http://c" then document "\x7b\"id\":\"7\"\x7d"
  else document ("\x7b\"timeSeries\":[\x7b\"metric\":\x7b\"labels\":" ++
    "\x7b\"Value\":\"DEGRADATION_PREDICTED\"\x7d\x7d\x7d]\x7d")

/-- The first patch is lost and no other. The clock is moved by whatever is no patch. -/
def lossyAnswer (c : Machine.port.Call) (h : List Machine.port.Call) : Machine.port.Reply c :=
  match c with
  | .send _ r =>
    if r.method = .patch then if h.any sendsPatch then document nodeText else .dropped
    else lossyReads r
  | .now => .early (h.filter (! sendsPatch ·)).length
  | .count _ => ()
  | .stampSuccess => ()
  | .pause _ => .due
  | .serveMetrics _ => .ok ()

def lossyServices : Prediction.Services :=
  { compute := { base := "http://c", tokens := .fixed "t" }
    monitoring := { base := "http://m", tokens := .fixed "t" }
    nodes := { client := { server := "http://k" } } }

def lossyWorld (c : Machine.port.Call) (h : List Machine.port.Call) :
    Machine.port.Reply c × List Machine.port.Call := (lossyAnswer c h, h ++ [c])

theorem lossyWorld_ignoresPatches : IgnoresPatches lossyWorld (List.filter (! sendsPatch ·)) := by
  refine IgnoresPatches.of_history lossyAnswer fun c h hc => ?_
  cases c with
  | send limit r =>
    have hmethod : r.method ≠ .patch := by simpa [sendsPatch] using hc
    exact (if_neg hmethod).trans (if_neg hmethod).symm
  | now =>
    have htwice : (h.filter (! sendsPatch ·)).filter (! sendsPatch ·) =
        h.filter (! sendsPatch ·) := by
      rw [List.filter_filter]
      simp only [Bool.and_self]
    exact congrArg (fun h : List Machine.port.Call => Calendar.Instant.early h.length) htwice.symm
  | count outcome => rfl
  | stampSuccess => rfl
  | pause interval => rfl
  | serveMetrics n => rfl

/-- The node loses its patch, and in a dry run it would have got it. -/
theorem dryRun_spares_patches_lossyWorld :
    let real := ((Prediction.pass { project := "p" }).translate
      ((lossyServices.withDryRun false).answer 2)).run lossyWorld []
    let dry := ((Prediction.pass { project := "p" }).translate
      ((lossyServices.withDryRun true).answer 2)).run lossyWorld []
    IgnoresPatches lossyWorld (List.filter (! sendsPatch ·)) ∧
    Parallel (List.filter (! sendsPatch ·)) (SparedPass lossyServices.nodes.client) real dry ∧
    dry.value = real.value.map (Except.map Prediction.Summary.spared) ∧
    real.value.toOption.bind Except.toOption =
      some { nodes := 1, patchFailed := 1 } := by
  obtain ⟨-, hparallel, hsummary⟩ :=
    (dryRun_spares_patches lossyWorld_ignoresPatches rfl).1 lossyServices 2 { project := "p" }
  exact ⟨lossyWorld_ignoresPatches, hparallel, hsummary, by decide +kernel⟩

end NodeLabels
