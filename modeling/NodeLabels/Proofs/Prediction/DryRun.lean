import NodeLabels.Prediction.OverHttp
import NodeLabels.Proofs.Cloud.Gets
import NodeLabels.Proofs.Cluster.Operator
/-!
# Prediction passes in a dry run

A pass in a dry run next to the same pass in earnest. Nothing that comes after a patch depends on
how it went, so the two ask for the same things, and a node ends alike in both unless its patch
fails.
-/

namespace NodeLabels.Prediction

open Cluster.Operator (patchCalls patchLabels_alike)
open Machine (Alike IgnoresPatches exchange_patchless)

def Services.withDryRun (s : Services) (dryRun : Bool) : Services :=
  { s with nodes := { s.nodes with dryRun } }

def reads (c : port.Call) : Bool :=
  match c with
  | .patch _ _ => false
  | _ => true

/-- How a node ends in earnest and in a dry run, and what is sent for its patch in earnest. -/
inductive Spared (client : Cluster.Client) (node : Node) :
    Outcome → Outcome → List Machine.port.Call → Prop
  | skipped (reason : SkipReason) : Spared client node (.skipped reason) (.skipped reason) []
  | noStatus : Spared client node .noStatus .noStatus []
  | unrecognized (raw : String) : Spared client node (.unrecognized raw) (.unrecognized raw) []
  | labeled (value : String) : Spared client node (.labeled value) (.labeled value)
      (patchCalls client node.name (recommendation value))
  | patchFailed (value : String) : Spared client node .patchFailed (.labeled value)
      (patchCalls client node.name (recommendation value))

/-- Node by node, with what is sent for all the patches. -/
inductive SparedAll (client : Cluster.Client) :
    List Node → List Outcome → List Outcome → List Machine.port.Call → Prop
  | nil : SparedAll client [] [] [] []
  | cons {node : Node} {nodes : List Node} {o o' : Outcome} {os os' : List Outcome}
      {ps qs : List Machine.port.Call} (hnode : Spared client node o o' ps)
      (hnodes : SparedAll client nodes os os' qs) :
      SparedAll client (node :: nodes) (o :: os) (o' :: os') (ps ++ qs)

/-- How a pass ends in earnest and in a dry run. -/
inductive SparedPass (client : Cluster.Client) :
    Except Failure Summary → Except Failure Summary → List Machine.port.Call → Prop
  | unlisted (failure : Failure) : SparedPass client (.error failure) (.error failure) []
  | listed {nodes : List Node} {os os' : List Outcome} {ps : List Machine.port.Call}
      (h : SparedAll client nodes os os' ps) :
      SparedPass client (.ok (tally os)) (.ok (tally os')) ps

/-! ## Summaries -/

/-- The summary with no patch failed. -/
def Summary.spared (s : Summary) : Summary :=
  { s with labeled := s.labeled + s.patchFailed, patchFailed := 0 }

section

variable {client : Cluster.Client} {node : Node} {nodes : List Node} {o o' : Outcome}
  {os os' : List Outcome} {ps : List Machine.port.Call}

theorem Spared.add (h : Spared client node o o' ps) (s : Summary) :
    s.spared.add o' = (s.add o).spared := by
  cases h <;> simp [Summary.spared, Summary.add, Nat.add_right_comm, Nat.add_assoc]

theorem SparedAll.tally (h : SparedAll client nodes os os' ps) :
    tally os' = (tally os).spared := by
  have hfold (s : Summary) : os'.foldl Summary.add s.spared = (os.foldl Summary.add s).spared := by
    induction h generalizing s with
    | nil => rfl
    | cons hnode hnodes ih => rw [List.foldl_cons, List.foldl_cons, hnode.add, ih]
  exact hfold {}

theorem SparedPass.summary {x y : Except Failure Summary} (h : SparedPass client x y ps) :
    y = x.map Summary.spared := by
  cases h with
  | unlisted failure => rfl
  | listed h => rw [h.tally]; rfl

end

/-! ## The parts of a pass -/

/-- `d` in earnest and in a dry run. -/
def SparedBy {σ τ α : Type} (reply : (c : Machine.port.Call) → σ → Machine.port.Reply c × σ)
    (view : σ → τ) (services : Services) (patience : Nat) (d : Dialogue port α)
    (rel : α → α → List Machine.port.Call → Prop) : Prop :=
  Alike reply view (d.translate ((services.withDryRun false).answer patience))
    (d.translate ((services.withDryRun true).answer patience)) rel

section

variable {σ τ : Type} {reply : (c : Machine.port.Call) → σ → Machine.port.Reply c × σ}
  {view : σ → τ} (hworld : IgnoresPatches reply view) (services : Services) (patience : Nat)
include hworld

theorem patch_alike (node : String) (labels : LabelMap) :
    Alike reply view ((services.withDryRun false).answer patience (.patch node labels))
      ((services.withDryRun true).answer patience (.patch node labels))
      fun _ b ps => b = .ok () ∧ ps = patchCalls services.nodes.client node labels :=
  patchLabels_alike hworld services.nodes node labels

theorem answer_alike {c : port.Call} (hc : reads c = true) :
    Alike reply view ((services.withDryRun false).answer patience c)
      ((services.withDryRun true).answer patience c) fun a b ps => a = b ∧ ps = [] := by
  cases c with
  | listNodes selector =>
    exact .refl hworld (exchange_patchless (services.nodes.client.listNodes_onlyGets selector) _)
  | instanceId project zone name =>
    have hgets := services.compute.instanceId_onlyGets project zone name
    exact .refl hworld (exchange_patchless hgets _)
  | now => exact .refl hworld (.ask rfl)
  | series project id window =>
    have hgets := services.monitoring.predictionSeries_onlyGets project id window patience
    exact .refl hworld (exchange_patchless hgets _)
  | patch node labels => exact nomatch hc

theorem applyPrediction_spared (node : Node) (id : String) (found : List Series) :
    SparedBy reply view services patience (applyPrediction node id found)
      (Spared services.nodes.client node) := by
  unfold applyPrediction
  refine Alike.tellAll_bind ?_ _
  cases firstPrediction found with
  | none => exact Alike.tell_bind (.done .noStatus) _ _
  | some signal =>
    cases hvalue : signal.labelValue? with
    | none =>
      simp only [hvalue]
      exact Alike.tell_bind (.done (.unrecognized _)) _ _
    | some value =>
      simp only [hvalue]
      refine (patch_alike hworld services patience node.name (recommendation value)).ask_bind ?_
      rintro answer _ ps ⟨rfl, rfl⟩
      cases answer with
      | ok =>
        refine Alike.tell_bind (.done ?_) _ _
        rw [List.append_nil]
        exact .labeled value
      | error failure =>
        refine Alike.tell_bind (.done ?_) _ _
        rw [List.append_nil]
        exact .patchFailed value

theorem labelInstance_spared (settings : Settings) (node : Node) (id : String) :
    SparedBy reply view services patience (labelInstance settings node id)
      (Spared services.nodes.client node) := by
  unfold labelInstance
  refine (answer_alike hworld services patience rfl).read_bind fun stop => ?_
  cases Window.endingAt? stop settings.window with
  | none => exact Alike.halt .dateOutOfRange
  | some window =>
    refine (answer_alike hworld services patience rfl).read_bind fun answer => ?_
    cases answer with
    | error fault => exact Alike.tell_bind (.done .noStatus) _ _
    | ok found => exact applyPrediction_spared hworld services patience node id found

theorem labelNode_spared (settings : Settings) (node : Node) :
    SparedBy reply view services patience (labelNode settings node)
      (Spared services.nodes.client node) := by
  unfold labelNode
  cases instanceName node.providerId with
  | error fault => exact Alike.tell_bind (.done (.skipped _)) _ _
  | ok name =>
    cases node.zone? with
    | none => exact Alike.tell_bind (.done (.skipped _)) _ _
    | some zone =>
      refine Alike.tell_bind ?_ _ _
      refine (answer_alike hworld services patience rfl).read_bind fun answer => ?_
      match answer with
      | .error fault => exact Alike.tell_bind (.done (.skipped _)) _ _
      | .ok none => exact Alike.tell_bind (.done (.skipped _)) _ _
      | .ok (some id) => exact labelInstance_spared hworld services patience settings node id

/-- The step lemma is `labelNode_spared`; over the nodes the patches add up. -/
theorem labelNodes_spared (settings : Settings) (nodes : List Node) :
    SparedBy reply view services patience (labelNodes settings nodes)
      (SparedAll services.nodes.client nodes) := by
  induction nodes with
  | nil => exact .done .nil
  | cons node nodes ih =>
    unfold labelNodes
    refine (labelNode_spared hworld services patience settings node).translate_bind ?_
    intro o o' ps hnode
    refine Alike.translate_bind ih ?_
    intro os os' qs hnodes
    refine .done ?_
    rw [List.append_nil]
    exact .cons hnode hnodes

theorem pass_spared (settings : Settings) :
    SparedBy reply view services patience (pass settings) (SparedPass services.nodes.client) := by
  unfold pass
  refine Alike.tell_bind ?_ _ _
  refine (answer_alike hworld services patience rfl).read_bind fun answer => ?_
  cases answer with
  | error failure => exact .done (.unlisted _)
  | ok nodes =>
    refine Alike.tell_bind ?_ _ _
    refine (labelNodes_spared hworld services patience settings nodes).translate_bind ?_
    intro os os' ps hall
    refine Alike.tell_bind (.done ?_) _ _
    rw [List.append_nil]
    exact .listed hall

end

end NodeLabels.Prediction
