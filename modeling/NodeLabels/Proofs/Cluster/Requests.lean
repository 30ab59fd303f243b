import NodeLabels.Cluster.Client
import NodeLabels.Proofs.Http.Steps
/-!
# Requests to the cluster

Listing the nodes takes one request, and so does a patch, unless the request cannot be built or
nothing is to be patched in earnest.
-/

namespace NodeLabels.Cluster

open Http (Purpose Requests Step Takes returned send_takes)

variable {σ α : Type} (http : (r : Http.port.Call) → σ → Http.port.Reply r × σ)

/-- A request to the cluster that cannot be built is a fault and is not sent. -/
theorem clientExchange_takes (purpose : Purpose) (read : Json.Reader α)
    (request : Option Http.Request) : Requests http (Client.exchange read request)
      (returned fun v steps => (∃ fault, v = .error fault ∧ steps = []) ∨
        ∃ r answer, request = some r ∧ steps = [⟨purpose, r, answer⟩]) := by
  unfold Client.exchange
  cases request with
  | none => exact .done ⟨_, rfl, .inl ⟨_, rfl, rfl⟩⟩
  | some r =>
    apply (send_takes http purpose r).bind_returned
    rintro answer steps rfl
    exact .done ⟨_, rfl, .inr ⟨r, answer, rfl, rfl⟩⟩

/-- The list of nodes is asked for once if it is had. -/
theorem listNodes_takes (client : Client) (selector : String) :
    Requests http (client.listNodes selector) (returned fun v steps =>
      ∀ nodes, v = .ok nodes → ∃ r answer, client.listRequest? selector = some r ∧
        steps = [⟨.listing, r, answer⟩]) := by
  unfold Client.listNodes
  apply (clientExchange_takes http .listing _ _).bind_returned
  rintro v steps hsteps
  cases v with
  | error fault => exact .done ⟨_, rfl, fun nodes h => by cases h⟩
  | ok nodes =>
    apply Takes.tell_bind
    obtain ⟨fault, hfault, -⟩ | ⟨r, answer, hr, rfl⟩ := hsteps
    · cases hfault
    · exact .done ⟨_, rfl, fun _ _ => ⟨r, answer, hr, rfl⟩⟩

/-- A patch takes one request or none. -/
def Patching (client : Client) (node : String) (labels : LabelMap) (steps : List Step) :
    Prop :=
  steps = [] ∨ ∃ r answer, client.patchRequest? node labels = some r ∧
    steps = [⟨.patch, r, answer⟩]

theorem patchLabels_takes (o : Operator) (node : String) (labels : LabelMap) :
    Requests http (o.patchLabels node labels)
      (returned fun _ steps => Patching o.client node labels steps) := by
  unfold Operator.patchLabels
  cases o.dryRun with
  | true =>
    apply Takes.tell_bind
    exact .done ⟨_, rfl, .inl rfl⟩
  | false =>
    simp only [Bool.false_eq_true, if_false]
    unfold Client.patchLabels
    apply (clientExchange_takes http .patch _ _).bind_returned
    intro v steps hsteps
    have hpatching : Patching o.client node labels (steps ++ []) := by
      rw [List.append_nil]
      obtain ⟨fault, -, hnone⟩ | hsome := hsteps
      · exact .inl hnone
      · exact .inr hsome
    cases v with
    | error fault => exact .done ⟨_, rfl, hpatching⟩
    | ok _ =>
      apply Takes.tell_bind
      exact .done ⟨_, rfl, hpatching⟩

end NodeLabels.Cluster
