import NodeLabels.Cluster.Client
import NodeLabels.Proofs.Machine
/-!
# The operator and its dry run

Nodes are listed by GET requests. A patch is one PATCH request, or none if it cannot be built, and
in a dry run there is none and the patch succeeds.
-/

namespace NodeLabels.Cluster

open Dialogue (Within)
open Http (OnlyGets)
open Machine (Alike IgnoresPatches)

theorem Client.method_request? {c : Client} {method : Http.Method} {path : String}
    {query : String × String} {headers : List (String × String)} {body : Option Json}
    {r : Http.Request} (h : c.request? method path query headers body = some r) :
    r.method = method := by
  unfold Client.request? at h
  dsimp only at h
  split at h
  · rw [← Option.some.inj h]
  · cases h

theorem Client.exchange_within {α : Type} (read : Json.Reader α) (request : Option Http.Request) :
    (Client.exchange read request).Within (fun r => request = some r) fun _ => True := by
  unfold Client.exchange
  cases request with
  | none => exact .done _
  | some r => exact Within.bind (.ask rfl) fun _ => .done _

theorem Client.listNodes_within (c : Client) (selector : String) :
    (c.listNodes selector).Within (fun r => c.listRequest? selector = some r) fun _ => True := by
  unfold Client.listNodes
  refine (exchange_within _ _).bind fun answer => ?_
  cases answer with
  | error fault => exact .done _
  | ok nodes => exact Within.tell_done trivial _

theorem Client.listNodes_onlyGets (c : Client) (selector : String) :
    OnlyGets (c.listNodes selector) :=
  (c.listNodes_within selector).mono fun _ h => method_request? h

theorem Client.patchLabels_within (c : Client) (node : String) (labels : LabelMap) :
    (c.patchLabels node labels).Within (fun r => c.patchRequest? node labels = some r)
      fun _ => True := by
  unfold Client.patchLabels
  refine (exchange_within _ _).bind fun answer => ?_
  cases answer with
  | error fault => exact .done _
  | ok document => exact Within.tell_done trivial _

namespace Operator

/-- The request patches a node, and not in a dry run. -/
def Patches (o : Operator) (node : String) (labels : LabelMap) (r : Http.Request) : Prop :=
  o.dryRun = false ∧ o.client.patchRequest? node labels = some r

theorem patchLabels_within (o : Operator) (node : String) (labels : LabelMap) :
    (o.patchLabels node labels).Within (o.Patches node labels) fun _ => True := by
  unfold Operator.patchLabels
  cases hdry : o.dryRun with
  | true => exact Within.tell_done trivial _
  | false =>
    simp only [Bool.false_eq_true, if_false]
    exact (o.client.patchLabels_within node labels).mono fun _ h => ⟨hdry, h⟩

/-- What is sent for a patch. -/
def patchCalls (client : Client) (node : String) (labels : LabelMap) : List Machine.port.Call :=
  (client.patchRequest? node labels).toList.map (Machine.Call.send none)

theorem patchLabels_alike {σ τ : Type}
    {reply : (c : Machine.port.Call) → σ → Machine.port.Reply c × σ} {view : σ → τ}
    (hworld : IgnoresPatches reply view) (o : Operator) (node : String) (labels : LabelMap) :
    Alike reply view (Machine.exchange none (patchLabels { o with dryRun := false } node labels))
      (Machine.exchange none (patchLabels { o with dryRun := true } node labels))
      fun _ b ps => b = .ok () ∧ ps = patchCalls o.client node labels := by
  have hdry : Machine.exchange none (patchLabels { o with dryRun := true } node labels) =
      .report (dryRunEvent node labels) (.done (.ok ())) := rfl
  rw [hdry]
  refine Alike.report_right ?_ _
  change Alike reply view (Machine.exchange none (o.client.patchLabels node labels)) _ _
  unfold Client.patchLabels patchCalls
  cases h : o.client.patchRequest? node labels with
  | none => exact .done ⟨rfl, rfl⟩
  | some request =>
    have hpatch : Machine.sendsPatch (Machine.Call.send none request) = true := by
      simp [Machine.sendsPatch, Client.method_request? h]
    refine Alike.patch_left hworld hpatch fun answer => ?_
    dsimp only [Client.exchange, Http.send, Dialogue.ask, Dialogue.bind, Dialogue.pure_eq]
    cases Client.readReply readNode answer with
    | error fault => exact .done ⟨rfl, rfl⟩
    | ok document => exact Alike.report_left (.done ⟨rfl, rfl⟩) _

end Operator

end NodeLabels.Cluster
