import NodeLabels.Prediction.Pass
import NodeLabels.Proofs.Dialogue.Within
/-!
# The parts of a pass

What holds of the parts of a dialogue and carries over to the whole holds of a pass if it holds of
its calls. The query of an instance is left as it is, so that it can be looked at together with the
reading of the clock.
-/

namespace NodeLabels.Prediction

open Dialogue (Within)

/-- A property that carries over from its parts to a dialogue, and that the calls of a pass have
apart from those of `labelInstance`. -/
structure OfParts (settings : Settings) (holds : (α : Type) → Dialogue port α → Prop) : Prop where
  done {α : Type} (a : α) : holds α (.done a)
  report {α : Type} {d : Dialogue port α} (h : holds α d) (e : Event) : holds α (.report e d)
  bind {α β : Type} {d : Dialogue port α} {f : α → Dialogue port β} (h : holds α d)
    (hf : ∀ a, holds β (f a)) : holds β (d >>= f)
  listNodes : holds _ (listNodes settings.selector)
  instanceId (zone name : String) : holds _ (instanceId settings.project zone name)
  patch (node value : String) : holds _ (patch node (recommendation value))

namespace OfParts

variable {settings : Settings} {holds : (α : Type) → Dialogue port α → Prop} {α : Type}

section

variable (h : OfParts settings holds)
include h

theorem tell_bind {f : Unit → Dialogue port α} (hf : holds α (f ())) (e : Event) :
    holds α (.tell e >>= f) := h.report hf e

theorem tell_done (e : Event) (a : α) : holds α (.tell e >>= fun _ => .done a) :=
  h.tell_bind (h.done a) e

theorem tellAll_bind {f : Unit → Dialogue port α} (hf : holds α (f ())) (es : List Event) :
    holds α (.tellAll es >>= f) := by
  induction es with
  | nil => exact hf
  | cons e es ih => exact h.report ih e

theorem applyPrediction (node : Node) (id : String) (found : List Series) :
    holds _ (applyPrediction node id found) := by
  unfold Prediction.applyPrediction
  apply h.tellAll_bind
  cases firstPrediction found with
  | none => exact h.tell_done _ _
  | some signal =>
    cases hvalue : signal.labelValue? with
    | none =>
      simp only [hvalue]
      exact h.tell_done _ _
    | some value =>
      simp only [hvalue]
      refine h.bind (h.patch node.name value) fun answer => ?_
      cases answer with
      | ok => exact h.tell_done _ _
      | error failure => exact h.tell_done _ _

end

section

variable (h : OfParts settings holds)
  (hinstance : ∀ node id, holds _ (labelInstance settings node id))
include h hinstance

theorem labelNode (node : Node) : holds _ (labelNode settings node) := by
  unfold Prediction.labelNode
  cases instanceName node.providerId with
  | error fault => exact h.tell_done _ _
  | ok name =>
    cases node.zone? with
    | none => exact h.tell_done _ _
    | some zone =>
      refine h.tell_bind (h.bind (h.instanceId zone name) fun answer => ?_) _
      match answer with
      | .error fault => exact h.tell_done _ _
      | .ok none => exact h.tell_done _ _
      | .ok (some id) => exact hinstance node id

/-- The run lemma: the nodes follow each other. -/
theorem labelNodes (nodes : List Node) : holds _ (labelNodes settings nodes) := by
  induction nodes with
  | nil => exact h.done []
  | cons node nodes ih =>
    exact h.bind (h.labelNode hinstance node) fun _ => h.bind ih fun _ => h.done _

theorem pass : holds _ (pass settings) := by
  refine h.tell_bind (h.bind h.listNodes fun answer => ?_) _
  cases answer with
  | error failure => exact h.done _
  | ok nodes =>
    exact h.tell_bind (h.bind (h.labelNodes hinstance nodes) fun _ => h.tell_done _ _) _

theorem passOrReport : holds _ (passOrReport settings) := by
  refine h.bind (h.pass hinstance) fun result => ?_
  cases result with
  | ok summary => exact h.done _
  | error failure => exact h.tell_done _ _

end

end OfParts

/-! ## The calls of a pass -/

/-- A call that a pass with these settings can make. -/
def Settings.Allows (settings : Settings) (c : port.Call) : Prop :=
  match c with
  | .listNodes selector => selector = settings.selector
  | .instanceId project _ _ => project = settings.project
  | .now => True
  | .series project _ _ => project = settings.project
  | .patch _ labels => ∃ value, labels = recommendation value

theorem allows_ofParts (settings : Settings) :
    OfParts settings fun _ d => d.Within settings.Allows fun _ => True where
  done a := .done a
  report h _ := .report trivial h
  bind h hf := h.bind hf
  listNodes := .ask rfl
  instanceId _ _ := .ask rfl
  patch _ value := .ask ⟨value, rfl⟩

theorem labelInstance_within (settings : Settings) (node : Node) (id : String) :
    (labelInstance settings node id).Within settings.Allows fun _ => True := by
  unfold labelInstance
  apply Within.bind (.ask trivial)
  intro stop
  cases Window.endingAt? stop settings.window with
  | none => exact .halt _
  | some window =>
    have hproject : settings.Allows (.series settings.project id window) := rfl
    apply Within.bind (.ask hproject)
    intro answer
    cases answer with
    | error fault => exact Within.tell_done trivial _
    | ok found => exact (allows_ofParts settings).applyPrediction node id found

theorem pass_within (settings : Settings) :
    (pass settings).Within settings.Allows fun _ => True :=
  (allows_ofParts settings).pass (labelInstance_within settings)

theorem passOrReport_within (settings : Settings) :
    (passOrReport settings).Within settings.Allows fun _ => True :=
  (allows_ofParts settings).passOrReport (labelInstance_within settings)

end NodeLabels.Prediction
