import Mathlib.Tactic.SplitIfs
import NodeLabels.Cloud.Compute
import NodeLabels.Cloud.Monitoring
import NodeLabels.Proofs.Machine
/-!
# Reading from the cloud

What the cloud services can be sent, whatever they answer: requests that get the URL in question,
and requests for a token before them. All of these are GET requests.
-/

namespace NodeLabels.Cloud

open Dialogue (Within)
open Http (OnlyGets)

/-! ## Requests -/

/-- The request gets the URL. -/
structure Gets (u : Url) (r : Http.Request) : Prop where
  method : r.method = .get
  origin : r.origin = origin u
  target : r.target = u.target
  body : r.body = none

theorem gets_of_prepare {endpoint : String} {u : Url} {headers : List (String × String)}
    {r : Http.Request} (h : prepare endpoint u headers = .ok r) : Gets u r := by
  unfold prepare at h
  split_ifs at h
  cases h
  exact ⟨rfl, rfl, rfl, rfl⟩

/-- The request gets a value of the metadata server. -/
def Metadata.Asks (m : Metadata) (path : String) (r : Http.Request) : Prop :=
  ∃ u, Url.parse (m.url path) = .ok u ∧ Gets u r

/-- The request gets a token. -/
def TokenSource.Asks (tokens : TokenSource) (r : Http.Request) : Prop :=
  ∃ server, tokens = .metadata server ∧ server.Asks Metadata.tokenPath r

/-- The request gets the instance. -/
def Compute.Asks (c : Compute) (project zone name : String) (r : Http.Request) : Prop :=
  ∃ u, Url.parse (c.url project zone name) = .ok u ∧ Gets u r

/-- The request gets one of the pages. -/
def Monitoring.Asks (m : Monitoring) (project id : String) (window : Window) (r : Http.Request) :
    Prop :=
  ∃ page u, m.url project id window page = .ok u ∧ Gets u r

section

variable {r : Http.Request}

theorem Metadata.Asks.method {m : Metadata} {path : String} (h : m.Asks path r) :
    r.method = .get := by
  obtain ⟨u, -, hgets⟩ := h
  exact hgets.method

theorem TokenSource.Asks.method {tokens : TokenSource} (h : tokens.Asks r) : r.method = .get := by
  obtain ⟨server, -, hasks⟩ := h
  exact hasks.method

theorem Compute.Asks.method {c : Compute} {project zone name : String}
    (h : c.Asks project zone name r) : r.method = .get := by
  obtain ⟨u, -, hgets⟩ := h
  exact hgets.method

theorem Monitoring.Asks.method {m : Monitoring} {project id : String} {window : Window}
    (h : m.Asks project id window r) : r.method = .get := by
  obtain ⟨page, u, -, hgets⟩ := h
  exact hgets.method

end

/-! ## Reads -/

theorem fetch_within (endpoint : String) (u : Url) (headers : List (String × String)) :
    (fetch endpoint u headers).Within (Gets u) fun _ => True := by
  unfold fetch
  cases h : prepare endpoint u headers with
  | error fault => exact .done _
  | ok request =>
    refine Within.bind (.ask (gets_of_prepare h)) fun reply => ?_
    cases reply with
    | lost reasons => exact .done _
    | answer status body complete =>
      dsimp only
      split
      · exact .done _
      · exact .done _

theorem fetchText_within (endpoint url : String) (headers : List (String × String)) :
    (fetchText endpoint url headers).Within (fun r => ∃ u, Url.parse url = .ok u ∧ Gets u r)
      fun _ => True := by
  unfold fetchText
  cases Url.parse url with
  | error fault => exact .done _
  | ok u => exact (fetch_within endpoint u headers).mono fun r hgets => ⟨u, rfl, hgets⟩

theorem Metadata.get_within (m : Metadata) (path : String) :
    (m.get path).Within (m.Asks path) fun _ => True := by
  unfold Metadata.get
  refine Within.bind (.tell trivial) fun _ => ?_
  exact (fetchText_within _ _ _).bind fun _ => .done _

theorem TokenSource.token_within (tokens : TokenSource) :
    tokens.token.Within tokens.Asks fun _ => True := by
  cases tokens with
  | fixed token => exact .done _
  | metadata server =>
    have haccess : server.accessToken.Within (server.Asks Metadata.tokenPath) fun _ => True :=
      (fetchText_within _ _ _).bind fun _ => .done _
    refine (haccess.mono fun r hasks => ⟨server, rfl, hasks⟩).bind fun answer => ?_
    cases answer with
    | error fault => exact .done _
    | ok token => exact .done _

theorem Compute.instanceId_within (c : Compute) (project zone name : String) :
    (c.instanceId project zone name).Within
      (fun r => c.tokens.Asks r ∨ c.Asks project zone name r) fun _ => True := by
  unfold Compute.instanceId
  refine Within.bind (.tell trivial) fun _ => ?_
  refine (c.tokens.token_within.mono fun r => .inl).bind fun answer => ?_
  cases answer with
  | error fault => exact .done _
  | ok token => exact ((fetchText_within _ _ _).mono fun r => .inr).bind fun _ => .done _

namespace Monitoring

variable (m : Monitoring) (project id : String) (window : Window)

/-- The request gets one of the pages, or a token for it. -/
def AsksAny (r : Http.Request) : Prop := m.tokens.Asks r ∨ m.Asks project id window r

theorem fetchPage_within (page : Option String) :
    (m.fetchPage project id window page).Within (m.AsksAny project id window) fun _ => True := by
  unfold fetchPage
  cases hu : m.url project id window page with
  | error fault => exact .done _
  | ok u =>
    refine (m.tokens.token_within.mono fun r => .inl).bind fun answer => ?_
    cases answer with
    | error fault => exact .done _
    | ok token =>
      refine Within.bind ?_ fun _ => .done _
      exact (fetch_within _ _ _).mono fun r hgets => .inr ⟨page, u, hu, hgets⟩

theorem collect_within (patience : Nat) (page : Option String) (seen : List String)
    (found : List Series) : (m.collect project id window patience page seen found).Within
      (m.AsksAny project id window) fun _ => True := by
  induction patience generalizing page seen found with
  | zero => exact .halt _
  | succ patience ih =>
    unfold collect
    refine (m.fetchPage_within project id window page).bind fun answer => ?_
    cases answer with
    | error fault => exact .done _
    | ok p =>
      dsimp only
      split
      · exact .done _
      split
      · exact .done _
      split
      · exact Within.tell_done trivial _
      · exact ih _ _ _

theorem predictionSeries_within (patience : Nat) :
    (m.predictionSeries patience project id window).Within (m.AsksAny project id window)
      fun _ => True := by
  unfold predictionSeries
  refine (m.collect_within project id window patience none [] []).bind fun answer => ?_
  cases answer with
  | error fault => exact .done _
  | ok found => exact Within.tell_done trivial _

end Monitoring

/-! ## Methods -/

theorem Metadata.get_onlyGets (m : Metadata) (path : String) : OnlyGets (m.get path) :=
  (m.get_within path).mono fun _ hasks => hasks.method

theorem Compute.instanceId_onlyGets (c : Compute) (project zone name : String) :
    OnlyGets (c.instanceId project zone name) :=
  (c.instanceId_within project zone name).mono fun _ hasks =>
    hasks.elim TokenSource.Asks.method Asks.method

theorem Monitoring.predictionSeries_onlyGets (m : Monitoring) (project id : String)
    (window : Window) (patience : Nat) :
    OnlyGets (m.predictionSeries patience project id window) :=
  (m.predictionSeries_within project id window patience).mono fun _ hasks =>
    hasks.elim TokenSource.Asks.method Asks.method

end NodeLabels.Cloud
