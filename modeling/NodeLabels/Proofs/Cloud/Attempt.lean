import NodeLabels.Proofs.Cloud.Fetch
import NodeLabels.Proofs.Cloud.Gets
import NodeLabels.Proofs.Http.Steps
/-!
# Attempts to read

A read of a cloud service comes with a request for a token if the tokens are those of a metadata
server. `Attempt` says how far such a read can get, and `Paging` the same of a query, page by page.
-/

namespace NodeLabels.Cloud

open Dialogue (Returns)
open Http (Purpose Requests Step Takes returned)

/-! ## Reads -/

/-- The token in a reply of the metadata server. -/
def tokenIn : Http.Reply → Option String := documentIn Metadata.readToken

/-- The steps that a read takes to the end, the request for a token first. -/
def withToken (tokens : TokenSource) (purpose : Purpose) : List Purpose :=
  match tokens with
  | .fixed _ => [purpose]
  | .metadata _ => [.token, purpose]

/-- The step asks the metadata server for a token. -/
structure AsksToken (tokens : TokenSource) (x : Step) : Prop where
  purpose : x.purpose = .token
  gets : ∃ server u, tokens = .metadata server ∧
    Url.parse (server.url Metadata.tokenPath) = .ok u ∧ Gets u x.request
  flavor : ("metadata-flavor", "Google") ∈ x.request.headers

/-- How getting a token can go. -/
inductive Granting (tokens : TokenSource) : Except SourceFault String → List Step → Prop
  | fixed {token : String} (h : tokens = .fixed token) : Granting tokens (.ok token) []
  | unsent {server : Metadata} (h : tokens = .metadata server) (why : String) :
      Granting tokens (.error (.auth why)) []
  | denied {x : Step} (hx : AsksToken tokens x) (hreply : tokenIn x.reply = none) (why : String) :
      Granting tokens (.error (.auth why)) [x]
  | granted {x : Step} {token : String} (hx : AsksToken tokens x)
      (hreply : tokenIn x.reply = some token) : Granting tokens (.ok token) [x]

/-- How a read can go, and what comes of it: its URL may be none, there may be no token, the request
may not be one that can be sent; or it is sent. -/
inductive Attempt {α : Type} (tokens : TokenSource) (purpose : Purpose)
    (fits : Http.Request → Prop) : Except SourceFault α → List Step → Prop
  | unbuilt (fault : SourceFault) : Attempt tokens purpose fits (.error fault) []
  | denied {fault : SourceFault} {steps : List Step} (h : Granting tokens (.error fault) steps) :
      Attempt tokens purpose fits (.error fault) steps
  | unsent {token : String} {steps : List Step} (h : Granting tokens (.ok token) steps)
      (fault : SourceFault) : Attempt tokens purpose fits (.error fault) steps
  | sent {token : String} {steps : List Step} {r : Http.Request}
      (h : Granting tokens (.ok token) steps) (hfits : fits r) (hbearer : bearer token ∈ r.headers)
      (answer : Http.Reply) (v : Except SourceFault α) :
      Attempt tokens purpose fits v (steps ++ [⟨purpose, r, answer⟩])

section

variable {σ : Type} (reply : (r : Http.port.Call) → σ → Http.port.Reply r × σ)

/-- Nothing is sent and a fault comes of it, or one request is, and `made` relates what comes of it
to the request and the reply. -/
def Once {α : Type} (purpose : Purpose)
    (made : Http.Request → Http.Reply → Except SourceFault α → Prop) (v : Except SourceFault α)
    (steps : List Step) : Prop :=
  (∃ fault, v = .error fault ∧ steps = []) ∨
    ∃ r answer, made r answer v ∧ steps = [⟨purpose, r, answer⟩]

theorem fetch_takes (endpoint : String) (u : Url) (headers : List (String × String))
    (purpose : Purpose) : Requests reply (fetch endpoint u headers) (returned (Once purpose
      fun r answer v => Gets u r ∧ headers ⊆ r.headers ∧ v = received endpoint u answer)) := by
  intro s
  cases h : prepare endpoint u headers with
  | error fault =>
    have hreturns : Returns reply _ s _ _ _ := fetch_refused h s
    refine ⟨[], by rw [hreturns.exchanges]; rfl, _, hreturns.value, .inl ⟨fault, rfl, rfl⟩⟩
  | ok r =>
    have hreturns : Returns reply _ s _ _ _ := fetch_sent h s
    have hheaders : headers ⊆ r.headers := by
      rw [(prepare_eq_ok h).2]
      exact List.subset_append_right _ _
    exact ⟨[⟨purpose, r, (reply r s).1⟩], by rw [hreturns.exchanges]; rfl, _, hreturns.value,
      .inr ⟨r, (reply r s).1, ⟨gets_of_prepare h, hheaders, rfl⟩, rfl⟩⟩

section

variable {α : Type} (endpoint : String) (headers : List (String × String)) (purpose : Purpose)
  (read : Json.Reader α)

theorem fetchJson_takes (u : Url) :
    Requests reply (fetch endpoint u headers >>= fun body =>
        .done (body >>= jsonBody read endpoint))
      (returned (Once purpose fun r answer v =>
        Gets u r ∧ headers ⊆ r.headers ∧ v.toOption = documentIn read answer)) := by
  refine (fetch_takes reply endpoint u headers purpose).bind_returned ?_
  rintro v steps (⟨fault, rfl, rfl⟩ | ⟨r, answer, ⟨hgets, hheaders, rfl⟩, rfl⟩)
  · exact .done ⟨_, rfl, .inl ⟨fault, rfl, rfl⟩⟩
  · exact .done ⟨_, rfl, .inr ⟨r, answer,
      ⟨hgets, hheaders, toOption_received_jsonBody read endpoint u answer⟩, rfl⟩⟩

theorem fetchTextJson_takes (url : String) :
    Requests reply (fetchText endpoint url headers >>= fun body =>
        .done (body >>= jsonBody read endpoint))
      (returned (Once purpose fun r answer v => (∃ u, Url.parse url = .ok u ∧ Gets u r) ∧
        headers ⊆ r.headers ∧ v.toOption = documentIn read answer)) := by
  unfold fetchText
  cases Url.parse url with
  | error fault => exact .done ⟨_, rfl, .inl ⟨_, rfl, rfl⟩⟩
  | ok u =>
    apply (fetchJson_takes reply endpoint headers purpose read u).mono
    rintro v steps ⟨a, rfl, h | ⟨r, answer, ⟨hgets, hmade⟩, rfl⟩⟩
    · exact ⟨a, rfl, .inl h⟩
    · exact ⟨a, rfl, .inr ⟨r, answer, ⟨⟨u, rfl, hgets⟩, hmade⟩, rfl⟩⟩

end

theorem token_takes (tokens : TokenSource) :
    Requests reply tokens.token (returned (Granting tokens)) := by
  cases tokens with
  | fixed token => exact .done ⟨_, rfl, .fixed rfl⟩
  | metadata server =>
    refine (fetchTextJson_takes reply Metadata.tokenPath Metadata.headers .token Metadata.readToken
      (server.url Metadata.tokenPath)).bind_returned ?_
    rintro v steps (⟨fault, rfl, rfl⟩ | ⟨r, answer, ⟨⟨u, hu, hgets⟩, hheaders, hv⟩, rfl⟩)
    · exact .done ⟨_, rfl, .unsent rfl fault.message⟩
    · have hasks : AsksToken (.metadata server) ⟨.token, r, answer⟩ :=
        ⟨rfl, ⟨server, u, rfl, hu, hgets⟩, hheaders (List.mem_singleton.2 rfl)⟩
      cases v with
      | error fault => exact .done ⟨_, rfl, .denied hasks hv.symm fault.message⟩
      | ok token => exact .done ⟨_, rfl, .granted hasks hv.symm⟩

/-- A read that asks for a token of its own. -/
theorem attempt_takes {α : Type} (tokens : TokenSource) {purpose : Purpose}
    {fits : Http.Request → Prop}
    {f : Except SourceFault String → Dialogue Http.port (Except SourceFault α)}
    (herror : ∀ fault, f (.error fault) = .done (.error fault))
    (hok : ∀ token, Requests reply (f (.ok token))
      (returned (Once purpose fun r _ _ => fits r ∧ bearer token ∈ r.headers))) :
    Requests reply (tokens.token >>= f) (returned (Attempt tokens purpose fits)) := by
  refine (token_takes reply tokens).bind_returned ?_
  intro grant steps hgrant
  cases grant with
  | error fault =>
    rw [herror]
    exact .done ⟨_, rfl, (List.append_nil steps).symm ▸ .denied hgrant⟩
  | ok token =>
    apply (hok token).mono
    rintro v more ⟨a, rfl, ⟨fault, rfl, rfl⟩ | ⟨r, answer, ⟨hfits, hbearer⟩, rfl⟩⟩
    · exact ⟨_, rfl, (List.append_nil steps).symm ▸ .unsent hgrant fault⟩
    · exact ⟨a, rfl, .sent hgrant hfits hbearer answer a⟩

theorem instanceId_takes (c : Compute) (project zone name : String) :
    Requests reply (c.instanceId project zone name)
      (returned (Attempt c.tokens .lookup (c.Asks project zone name))) := by
  unfold Compute.instanceId
  apply Takes.tell_bind
  refine attempt_takes reply c.tokens ?_ ?_
  · exact fun fault => rfl
  intro token
  apply (fetchTextJson_takes reply Compute.endpoint [bearer token] .lookup Compute.readId
    (c.url project zone name)).mono
  rintro v steps ⟨a, rfl, h | ⟨r, answer, ⟨hasks, hheaders, -⟩, rfl⟩⟩
  · exact ⟨a, rfl, .inl h⟩
  · exact ⟨a, rfl, .inr ⟨r, answer, ⟨hasks, hheaders (List.mem_singleton.2 rfl)⟩, rfl⟩⟩

namespace Monitoring

variable (m : Monitoring) (project id : String) (window : Window)

theorem fetchPage_takes (page : Option String) :
    Requests reply (m.fetchPage project id window page)
      (returned (Attempt m.tokens .page (m.Asks project id window))) := by
  unfold fetchPage
  cases hu : m.url project id window page with
  | error fault => exact .done ⟨_, rfl, .unbuilt fault⟩
  | ok u =>
    refine attempt_takes reply m.tokens ?_ ?_
    · exact fun fault => rfl
    intro token
    apply (fetchJson_takes reply endpoint [bearer token] .page readPage u).mono
    rintro v steps ⟨a, rfl, h | ⟨r, answer, ⟨hgets, hheaders, -⟩, rfl⟩⟩
    · exact ⟨a, rfl, .inl h⟩
    · exact ⟨a, rfl, .inr ⟨r, answer,
        ⟨⟨page, u, hu, hgets⟩, hheaders (List.mem_singleton.2 rfl)⟩, rfl⟩⟩

/-- The pages of a query, one attempt after the other, all but the last with a page to show for. -/
inductive Paging (tokens : TokenSource) (fits : Http.Request → Prop) :
    (pages : Nat) → Except Halt (Except SourceFault (List Series)) → List Step → Prop
  | exhausted : Paging tokens fits 0 (.error .outOfPatience) []
  | failed {fault : SourceFault} {steps : List Step}
      (h : @Attempt Page tokens .page fits (.error fault) steps) :
      Paging tokens fits 1 (.ok (.error fault)) steps
  | last {p : Page} {steps : List Step} (h : Attempt tokens .page fits (.ok p) steps)
      (found : List Series) : Paging tokens fits 1 (.ok (.ok found)) steps
  | next {p : Page} {steps more : List Step} {pages : Nat}
      {v : Except Halt (Except SourceFault (List Series))}
      (h : Attempt tokens .page fits (.ok p) steps) (onward : Paging tokens fits pages v more) :
      Paging tokens fits (pages + 1) v (steps ++ more)

/-- The specification of a query that has patience for so many pages. -/
def Pages (patience : Nat) (v : Except Halt (Except SourceFault (List Series)))
    (steps : List Step) : Prop :=
  ∃ pages, Paging m.tokens (m.Asks project id window) pages v steps ∧
    ∀ why, v = .error why → why = .outOfPatience ∧ pages = patience

theorem collect_takes (patience : Nat) (page : Option String) (seen : List String)
    (found : List Series) :
    Requests reply (m.collect project id window patience page seen found)
      (m.Pages project id window patience) := by
  induction patience generalizing page seen found with
  | zero => exact .halt ⟨0, .exhausted, fun why h => ⟨(Except.error.inj h).symm, rfl⟩⟩
  | succ patience ih =>
    unfold collect
    refine (m.fetchPage_takes reply project id window page).bind_returned ?_
    intro answer steps hattempt
    cases answer with
    | error fault =>
      refine .done ⟨1, ?_, fun why h => by cases h⟩
      rw [List.append_nil]
      exact .failed hattempt
    | ok p =>
      have hlast : ∀ found', (m.Pages project id window (patience + 1)) (.ok (.ok found'))
          (steps ++ []) := by
        intro found'
        rw [List.append_nil]
        exact ⟨1, .last hattempt found', fun why h => by cases h⟩
      dsimp only
      split
      · exact .done (hlast _)
      split
      · exact .done (hlast _)
      split
      · apply Takes.tell_bind
        exact .done (hlast _)
      · refine (ih _ _ _).mono ?_
        rintro v more ⟨pages, hpaging, hhalt⟩
        refine ⟨pages + 1, .next hattempt hpaging, fun why h => ?_⟩
        obtain ⟨hwhy, hpages⟩ := hhalt why h
        exact ⟨hwhy, by rw [hpages]⟩

theorem predictionSeries_takes (patience : Nat) :
    Requests reply (m.predictionSeries patience project id window)
      (m.Pages project id window patience) := by
  unfold predictionSeries
  refine (m.collect_takes reply project id window patience none [] []).bind ?_ fun why steps h => h
  rintro v steps ⟨pages, hpaging, hhalt⟩
  have hpages : m.Pages project id window patience (.ok v) (steps ++ []) := by
    rw [List.append_nil]
    exact ⟨pages, hpaging, hhalt⟩
  cases v with
  | error fault => exact .done hpages
  | ok found =>
    apply Takes.tell_bind
    exact .done hpages

end Monitoring

end

end NodeLabels.Cloud
