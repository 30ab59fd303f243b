import NodeLabels.Proofs.Cluster.Interleaving
import NodeLabels.Proofs.Dialogue.Exchange
import NodeLabels.Proofs.Dialogue.Within
import NodeLabels.Proofs.Prediction.Parts
/-!
# The patches of the prediction job

Each patch of a pass sets the recommendation and nothing else.
-/

namespace NodeLabels.Prediction

open Cluster (Patch)
open Dialogue (Exchange Within)

theorem find?_recommendation (value key : String) :
    (recommendation value).find? key = if key = Label.recommendation then some value else none := by
  simp [recommendation, LabelMap.ofList]

def patch? (x : Exchange port) : Option Patch :=
  match x with
  | ⟨.patch node labels, _⟩ => some (node, labels)
  | _ => none

/-- If the call is a patch, it sets a recommendation. -/
def Recommending (c : port.Call) : Prop :=
  match c with
  | .patch _ labels => ∃ value, labels = recommendation value
  | _ => True

/-- Nothing but recommendations is written, whatever the replies. -/
abbrev Modest {α : Type} (d : Dialogue port α) : Prop := d.Within Recommending fun _ => True

theorem Settings.Allows.recommending {settings : Settings} {c : port.Call}
    (h : settings.Allows c) : Recommending c := by
  cases c with
  | patch node labels => exact h
  | listNodes selector => trivial
  | instanceId project zone name => trivial
  | now => trivial
  | series project id window => trivial

theorem pass_modest (settings : Settings) : Modest (pass settings) :=
  (pass_within settings).mono fun _ h => h.recommending

theorem passOrReport_modest (settings : Settings) : Modest (passOrReport settings) :=
  (passOrReport_within settings).mono fun _ h => h.recommending

/-- What a pass exchanges, whatever comes of it. -/
def IsRun (log : List (Exchange port)) : Prop :=
  ∃ (σ : Type) (reply : (c : port.Call) → σ → port.Reply c × σ) (s : σ) (settings : Settings),
    log = (passOrReport settings).exchanges reply s

theorem IsRun.recommends {log : List (Exchange port)} (h : IsRun log) {p : Patch}
    (hp : p ∈ log.filterMap patch?) : ∃ value, p.2 = recommendation value := by
  obtain ⟨σ, reply, s, settings, rfl⟩ := h
  obtain ⟨x, hx, hpatch⟩ := List.mem_filterMap.1 hp
  have hcall : Recommending x.1 := by
    refine (passOrReport_modest settings).calls_run reply s x.1 ?_
    rw [Dialogue.calls_run]
    exact List.mem_map_of_mem hx
  obtain ⟨c, answer⟩ := x
  cases c with
  | patch node labels =>
    obtain rfl := Option.some.inj hpatch
    exact hcall
  | listNodes selector => exact nomatch hpatch
  | instanceId project zone name => exact nomatch hpatch
  | now => exact nomatch hpatch
  | series project id window => exact nomatch hpatch

end NodeLabels.Prediction
