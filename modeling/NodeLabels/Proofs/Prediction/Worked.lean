import NodeLabels.Prediction.OverHttp
import NodeLabels.Proofs.Cloud.Attempt
import NodeLabels.Proofs.Cluster.Requests
/-!
# The work on an instance over HTTP

The requests from the ID of an instance on: the pages of its predictions, and a patch after them.
-/

namespace NodeLabels.Prediction

open Cluster (Patching)
open Http (Step Takes exchange_takes returned sent?)

section

variable {σ : Type} {reply : (c : Machine.port.Call) → σ → Machine.port.Reply c × σ}

theorem now_takes : Takes sent? reply Machine.now
    (returned fun stop steps => (∃ s, stop = (reply Machine.Call.now s).1) ∧ steps = []) :=
  fun s => ⟨[], rfl, _, rfl, ⟨s, rfl⟩, rfl⟩

variable (services : Services) (settings : Settings) (patience : Nat)

/-- How it can go from an instance on: the pages may not come to an end, or fail, or a patch can
follow. -/
inductive Worked (node : Node) (id : String) : Except Halt Outcome → List Step → Prop
  | halted {window : Window} {why : Halt} {steps : List Step}
      (h : services.monitoring.Pages settings.project id window patience (.error why) steps) :
      Worked node id (.error why) steps
  | failed {window : Window} {fault : SourceFault} {steps : List Step}
      (h : services.monitoring.Pages settings.project id window patience (.ok (.error fault))
        steps) :
      Worked node id (.ok .noStatus) steps
  | applied {window : Window} {found : List Series} {value : String} {steps more : List Step}
      (h : services.monitoring.Pages settings.project id window patience (.ok (.ok found)) steps)
      (hpatch : Patching services.nodes.client node.name (recommendation value) more)
      (outcome : Outcome) : Worked node id (.ok outcome) (steps ++ more)

theorem applyPrediction_takes (node : Node) (id : String) (found : List Series) :
    Takes sent? reply ((applyPrediction node id found).translate (services.answer patience))
      (returned fun _ steps => ∃ value,
        Patching services.nodes.client node.name (recommendation value) steps) := by
  unfold applyPrediction
  apply Takes.translate_tellAll_bind
  cases firstPrediction found with
  | none =>
    apply Takes.translate_tell_bind
    exact .done ⟨_, rfl, "", .inl rfl⟩
  | some signal =>
    cases hvalue : signal.labelValue? with
    | none =>
      simp only [hvalue]
      apply Takes.translate_tell_bind
      exact .done ⟨_, rfl, "", .inl rfl⟩
    | some value =>
      simp only [hvalue]
      have hpatch : Takes sent? reply
          (services.answer patience (.patch node.name (recommendation value)))
          (returned fun _ steps =>
            Patching services.nodes.client node.name (recommendation value) steps) :=
        exchange_takes (Cluster.patchLabels_takes _ services.nodes _ _)
      refine Takes.translate_ask_bind_returned hpatch ?_
      intro answer steps hsteps
      have hsteps' : ∃ value, Patching services.nodes.client node.name (recommendation value)
          (steps ++ []) := ⟨value, by rwa [List.append_nil]⟩
      cases answer with
      | ok =>
        apply Takes.translate_tell_bind
        exact .done ⟨_, rfl, hsteps'⟩
      | error failure =>
        apply Takes.translate_tell_bind
        exact .done ⟨_, rfl, hsteps'⟩

theorem labelInstance_takes
    (hclock : ∀ s, ∃ window, Window.endingAt? (reply Machine.Call.now s).1 settings.window =
      some window) (node : Node) (id : String) :
    Takes sent? reply ((labelInstance settings node id).translate (services.answer patience))
      (Worked services settings patience node id) := by
  unfold labelInstance
  have hnow : Takes sent? reply (services.answer patience .now)
      (returned fun stop steps => (∃ s, stop = (reply Machine.Call.now s).1) ∧ steps = []) :=
    now_takes
  refine Takes.translate_ask_bind_returned hnow ?_
  rintro stop _ ⟨⟨s, rfl⟩, rfl⟩
  obtain ⟨window, hwindow⟩ := hclock s
  simp only [hwindow]
  have hseries : Takes sent? reply (services.answer patience (.series settings.project id window))
      (services.monitoring.Pages settings.project id window patience) :=
    exchange_takes (Cloud.Monitoring.predictionSeries_takes _ services.monitoring _ _ _ _)
  refine Takes.translate_ask_bind hseries ?_ ?_
  · intro answer steps hpages
    cases answer with
    | error fault =>
      apply Takes.translate_tell_bind
      apply Takes.done
      rw [List.append_nil]
      exact .failed hpages
    | ok found =>
      apply (applyPrediction_takes services patience node id found).mono
      rintro v more ⟨outcome, rfl, value, hpatch⟩
      exact .applied hpages hpatch outcome
  · intro why steps hpages
    exact .halted hpages

end

end NodeLabels.Prediction
