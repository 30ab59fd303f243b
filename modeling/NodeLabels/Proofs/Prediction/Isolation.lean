import NodeLabels.Proofs.Dialogue.Exchange
import NodeLabels.Proofs.Prediction.Answers
import NodeLabels.Proofs.Prediction.Tally
/-!
# Nodes on their own

Where lookups, queries and patches are answered by function, the nodes of a pass do not meet: each
comes to the outcome, and makes the calls, that it would come to and make alone. `Settled` is the
invariant. It says what a dialogue returns and does whatever the state of the world, so it carries
over from one node to the next without a word about what happened before.
-/

namespace NodeLabels.Prediction

open Dialogue (Returns)
open Calendar (Instant)

/-- A call on the cloud or the cluster for a node. The window of a query is left out. -/
inductive Effect
  | lookup (project zone name : String)
  | query (project id : String)
  | patch (node : String) (labels : LabelMap)
deriving DecidableEq

def effect? (c : port.Call) : Option Effect :=
  match c with
  | .listNodes _ | .now => none
  | .instanceId project zone name => some (.lookup project zone name)
  | .series project id _ => some (.query project id)
  | .patch node labels => some (.patch node labels)

def effects (calls : List port.Call) : List Effect := calls.filterMap effect?

theorem effects_append (calls more : List port.Call) :
    effects (calls ++ more) = effects calls ++ effects more := List.filterMap_append

/-! ## Dialogues that do the same in every state -/

section

variable {σ α β : Type} {reply : (c : port.Call) → σ → port.Reply c × σ} {a : α} {b : β}
  {es fs : List Effect}

/-- From every state the dialogue returns `a` and has the effects `es`. -/
def Settled (reply : (c : port.Call) → σ → port.Reply c × σ) (d : Dialogue port α) (a : α)
    (es : List Effect) : Prop :=
  ∀ s, ∃ t log, Returns reply d s a t log ∧ effects (log.map Sigma.fst) = es

namespace Settled

theorem tell_done (e : Event) (a : α) : Settled reply (.tell e >>= fun _ => .done a) a [] :=
  fun s => ⟨s, [], .tell_done e a s, rfl⟩

theorem done (a : α) : Settled reply (.done a) a [] := fun s => ⟨s, [], .done a s, rfl⟩

theorem ask {c : port.Call} {r : port.Reply c} (h : ∀ s, (reply c s).1 = r) :
    Settled reply (.ask c) r (effects [c]) :=
  fun s => ⟨_, _, .ask (Prod.ext (h s) rfl), rfl⟩

theorem bind {d : Dialogue port α} {f : α → Dialogue port β} (h : Settled reply d a es)
    (g : Settled reply (f a) b fs) : Settled reply (d >>= f) b (es ++ fs) := by
  intro s
  obtain ⟨t, log, hd, rfl⟩ := h s
  obtain ⟨u, rest, hf, rfl⟩ := g t
  exact ⟨u, log ++ rest, hd.bind hf, by rw [List.map_append, effects_append]⟩

theorem tell_bind {f : Unit → Dialogue port α} (g : Settled reply (f ()) a es) (e : Event) :
    Settled reply (.tell e >>= f) a es := by
  intro s
  obtain ⟨t, log, hf, rfl⟩ := g s
  exact ⟨t, log, hf.tell_bind e, rfl⟩

theorem tellAll_bind {f : Unit → Dialogue port α} (g : Settled reply (f ()) a es)
    (events : List Event) : Settled reply (.tellAll events >>= f) a es := by
  intro s
  obtain ⟨t, log, hf, rfl⟩ := g s
  exact ⟨t, log, hf.tellAll_bind events, rfl⟩

/-- What is settled whatever time the clock shows is settled. -/
theorem now_bind {f : Instant → Dialogue port α}
    (g : ∀ s, Settled reply (f (reply Call.now s).1) a es) : Settled reply (now >>= f) a es := by
  intro s
  obtain ⟨t, log, hf, rfl⟩ := g s (reply Call.now s).2
  exact ⟨t, _, Returns.bind (.ask rfl) hf, rfl⟩

theorem value_run {d : Dialogue port α} (h : Settled reply d a es) (s : σ) :
    (d.run reply s).value = .ok a := by
  obtain ⟨t, log, hd, -⟩ := h s
  exact hd.value

theorem effects_run {d : Dialogue port α} (h : Settled reply d a es) (s : σ) :
    effects (d.run reply s).calls = es := by
  obtain ⟨t, log, hd, hes⟩ := h s
  rw [hd.calls, hes]

end Settled

end

/-! ## The parts of a pass -/

section

variable {σ : Type} {settings : Settings} {answers : Answers}
  {reply : (c : port.Call) → σ → port.Reply c × σ}

theorem applyPrediction_settled (hgiven : answers.Given reply) (node : Node) (id : String)
    (found : List Series) : ∃ outcome es,
      Settled reply (applyPrediction node id found) outcome es := by
  unfold applyPrediction
  cases firstPrediction found with
  | none => exact ⟨_, _, (Settled.tell_done _ _).tellAll_bind _⟩
  | some signal =>
    cases hvalue : signal.labelValue? with
    | none =>
      refine ⟨.unrecognized signal.text, [], Settled.tellAll_bind ?_ _⟩
      simp only [hvalue]
      exact Settled.tell_done _ _
    | some value =>
      simp only [hvalue]
      cases hanswer : answers.patch node.name (recommendation value) with
      | ok =>
        have hask := Settled.ask fun s => (hgiven.patch _ _ s).trans hanswer
        exact ⟨_, _, (hask.bind (.tell_done _ _)).tellAll_bind _⟩
      | error failure =>
        have hask := Settled.ask fun s => (hgiven.patch _ _ s).trans hanswer
        exact ⟨_, _, (hask.bind (.tell_done _ _)).tellAll_bind _⟩

theorem labelInstance_settled (hgiven : answers.Given reply) (hclock : InCalendar settings reply)
    (node : Node) (id : String) : ∃ outcome es,
      Settled reply (labelInstance settings node id) outcome es := by
  cases hanswer : answers.series settings.project id with
  | error fault =>
    refine ⟨.noStatus, [.query settings.project id], Settled.now_bind fun s => ?_⟩
    obtain ⟨window, hwindow⟩ := hclock s
    have hask := Settled.ask fun s => (hgiven.series _ _ window s).trans hanswer
    simp only [hwindow]
    exact hask.bind (.tell_done _ _)
  | ok found =>
    obtain ⟨outcome, es, happly⟩ := applyPrediction_settled hgiven node id found
    refine ⟨outcome, .query settings.project id :: es, Settled.now_bind fun s => ?_⟩
    obtain ⟨window, hwindow⟩ := hclock s
    have hask := Settled.ask fun s => (hgiven.series _ _ window s).trans hanswer
    simp only [hwindow]
    exact hask.bind happly

theorem labelNode_settled (hgiven : answers.Given reply) (hclock : InCalendar settings reply)
    (node : Node) : ∃ outcome es, Settled reply (labelNode settings node) outcome es := by
  unfold labelNode
  cases instanceName node.providerId with
  | error fault => exact ⟨_, _, Settled.tell_done _ _⟩
  | ok name =>
    cases node.zone? with
    | none => exact ⟨_, _, Settled.tell_done _ _⟩
    | some zone =>
      match hanswer : answers.instanceId settings.project zone name with
      | .error fault =>
        have hask := Settled.ask fun s => (hgiven.instanceId _ _ _ s).trans hanswer
        exact ⟨_, _, (hask.bind (.tell_done _ _)).tell_bind _⟩
      | .ok none =>
        have hask := Settled.ask fun s => (hgiven.instanceId _ _ _ s).trans hanswer
        exact ⟨_, _, (hask.bind (.tell_done _ _)).tell_bind _⟩
      | .ok (some id) =>
        have hask := Settled.ask fun s => (hgiven.instanceId _ _ _ s).trans hanswer
        obtain ⟨outcome, es, hlabel⟩ := labelInstance_settled hgiven hclock node id
        exact ⟨outcome, _, (hask.bind hlabel).tell_bind _⟩

/-- The run lemma: node by node, the outcomes and the effects line up. -/
theorem labelNodes_settled {outcome : Node → Outcome} {work : Node → List Effect}
    (h : ∀ node, Settled reply (labelNode settings node) (outcome node) (work node))
    (nodes : List Node) :
    Settled reply (labelNodes settings nodes) (nodes.map outcome) (nodes.flatMap work) := by
  induction nodes with
  | nil => exact .done []
  | cons node nodes ih =>
    have hrest : Settled reply (labelNodes settings nodes >>= fun outcomes =>
        Dialogue.done (outcome node :: outcomes)) (outcome node :: nodes.map outcome)
        (nodes.flatMap work ++ []) := ih.bind (.done _)
    rw [List.append_nil] at hrest
    exact (h node).bind hrest

theorem pass_listed {outcome : Node → Outcome} {work : Node → List Effect}
    (h : ∀ node, Settled reply (labelNode settings node) (outcome node) (work node)) {s : σ}
    {nodes : List Node}
    (hlist : (reply (Call.listNodes settings.selector) s).1 = Except.ok nodes) :
    ∃ t log, Returns reply (pass settings) s (.ok (tally (nodes.map outcome))) t log ∧
      effects (log.map Sigma.fst) = nodes.flatMap work := by
  rcases hreply : reply (Call.listNodes settings.selector) s with ⟨listing, t⟩
  obtain rfl : listing = Except.ok nodes := by rwa [hreply] at hlist
  obtain ⟨u, log, hnodes, hwork⟩ := labelNodes_settled h nodes t
  refine ⟨u, ⟨Call.listNodes settings.selector, Except.ok nodes⟩ :: log, ?_, hwork⟩
  refine ((Returns.ask (P := port) hreply).bind ?_).tell_bind _
  exact (hnodes.bind_silent (.tell_done _ _ u)).tell_bind _

theorem pass_unlisted {s : σ} {failure : Failure}
    (hlist : (reply (Call.listNodes settings.selector) s).1 = Except.error failure) :
    ∃ t, Returns reply (pass settings) s (.error (failure.addContext "Failed to list nodes")) t
      [⟨Call.listNodes settings.selector, Except.error failure⟩] := by
  rcases hreply : reply (Call.listNodes settings.selector) s with ⟨listing, t⟩
  obtain rfl : listing = Except.error failure := by rwa [hreply] at hlist
  refine ⟨t, ((Returns.ask (P := port) hreply).bind_silent ?_).tell_bind _⟩
  exact .done _ t

end

/-- Where lookups, queries and patches are answered by function, every node comes to an outcome and
has effects of its own, the same in whatever state its turn finds the world. A pass over listed
nodes has these effects, in the order of the list, and counts these outcomes. Without a list there
is neither a summary nor an effect. -/
theorem pass_isolates {σ : Type} {settings : Settings} {answers : Answers}
    {reply : (c : port.Call) → σ → port.Reply c × σ} (hgiven : answers.Given reply)
    (hclock : InCalendar settings reply) :
    ∃ (outcome : Node → Outcome) (work : Node → List Effect),
      (∀ node s, ((labelNode settings node).run reply s).value = .ok (outcome node) ∧
        effects ((labelNode settings node).run reply s).calls = work node) ∧
      (∀ s nodes, (reply (Call.listNodes settings.selector) s).1 = Except.ok nodes →
        ∃ summary, ((pass settings).run reply s).value = .ok (.ok summary) ∧
          effects ((pass settings).run reply s).calls = nodes.flatMap work ∧
          ((passOrReport settings).run reply s).value = .ok (some summary) ∧
          effects ((passOrReport settings).run reply s).calls = nodes.flatMap work ∧
          summary.nodes = nodes.length ∧
          (∀ kind, summary.count kind = nodes.countP fun node => (outcome node).kind = kind) ∧
          summary.nodes = summary.labeled + summary.skipped + summary.noStatus +
            summary.unrecognized + summary.patchFailed) ∧
      (∀ s failure, (reply (Call.listNodes settings.selector) s).1 = Except.error failure →
        ((pass settings).run reply s).value =
          .ok (.error (failure.addContext "Failed to list nodes")) ∧
        ((pass settings).run reply s).calls = [.listNodes settings.selector] ∧
        ((passOrReport settings).run reply s).value = .ok none ∧
        ((passOrReport settings).run reply s).calls = [.listNodes settings.selector]) := by
  obtain ⟨outcome, houtcome⟩ := Classical.skolem.1 (labelNode_settled hgiven hclock)
  obtain ⟨work, h⟩ := Classical.skolem.1 houtcome
  refine ⟨outcome, work, fun node s => ⟨(h node).value_run s, (h node).effects_run s⟩, ?_, ?_⟩
  · intro s nodes hlist
    obtain ⟨t, log, hpass, hwork⟩ := pass_listed h hlist
    have hreport : Returns reply (passOrReport settings) s
        (some (tally (nodes.map outcome))) t log := hpass.bind_silent (.done _ t)
    refine ⟨tally (nodes.map outcome), hpass.value, by rw [hpass.calls, hwork], hreport.value,
      by rw [hreport.calls, hwork], ?_, fun kind => ?_, balanced_tally _⟩
    · rw [nodes_tally, List.length_map]
    · rw [count_tally, List.countP_map]
      rfl
  · intro s failure hlist
    obtain ⟨t, hpass⟩ := pass_unlisted hlist
    have hreport : Returns reply (passOrReport settings) s none t
        [⟨Call.listNodes settings.selector, Except.error failure⟩] :=
      hpass.bind_silent (.tell_done _ _ t)
    exact ⟨hpass.value, hpass.calls, hreport.value, hreport.calls⟩

/-- Nodes of several kinds, one of them twice. -/
def mixedNodes : List Node :=
  [gpuNode "a" "DEGRADATION_PREDICTED", { name := "b" }, gpuNode "c" "lost",
    gpuNode "a" "DEGRADATION_PREDICTED", gpuNode "locked" "NO_DEGRADATION_PREDICTED",
    gpuNode "d" "ON_FIRE"]

def mixedWorld : (c : port.Call) → Nat → port.Reply c × Nat :=
  plainAnswers.world (.ok mixedNodes) swinging

/-- The nodes that fail do not keep the others from being labeled. -/
theorem pass_mixedNodes :
    plainAnswers.Given mixedWorld ∧ InCalendar plainSettings mixedWorld ∧
    (∃ (outcome : Node → Outcome) (work : Node → List Effect) (summary : Summary),
      (∀ node s, ((labelNode plainSettings node).run mixedWorld s).value = .ok (outcome node) ∧
        effects ((labelNode plainSettings node).run mixedWorld s).calls = work node) ∧
      ((pass plainSettings).run mixedWorld 0).value = .ok (.ok summary) ∧
      effects ((pass plainSettings).run mixedWorld 0).calls = mixedNodes.flatMap work ∧
      summary.nodes = 6 ∧
      ∀ kind, summary.count kind = mixedNodes.countP fun node => (outcome node).kind = kind) ∧
    ((passOrReport plainSettings).run mixedWorld 0).value.toOption = some (some
      { nodes := 6, labeled := 2, skipped := 2, unrecognized := 1, patchFailed := 1 }) := by
  have hgiven : plainAnswers.Given mixedWorld := plainAnswers.world_given _ _
  have hclock : InCalendar plainSettings mixedWorld := inCalendar_swinging plainAnswers _
  refine ⟨hgiven, hclock, ?_, by decide +kernel⟩
  obtain ⟨outcome, work, hnode, hlisted, -⟩ := pass_isolates hgiven hclock
  obtain ⟨summary, hvalue, heffects, -, -, hnodes, hcount, -⟩ := hlisted 0 mixedNodes rfl
  exact ⟨outcome, work, summary, hnode, hvalue, heffects, hnodes, hcount⟩

end NodeLabels.Prediction
