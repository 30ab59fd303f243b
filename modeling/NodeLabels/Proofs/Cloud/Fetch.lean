import NodeLabels.Cloud.Monitoring
import NodeLabels.Proofs.Dialogue.Exchange
import NodeLabels.Proofs.Url.Path
/-!
# What fetching exchanges

The exchanges of the functions that ask a cloud service for something, one after the other up to the
page of a query. They always return. A page takes at most one request of its own, behind those for
the token, and these are told apart by a header: only requests to a metadata server name its flavor.
-/

namespace NodeLabels.Cloud

open Dialogue (Exchange Returns)

variable {σ : Type} {reply : (r : Http.port.Call) → σ → Http.port.Reply r × σ} {s t : σ}

theorem eq_ok_of_toOption {ε α : Type} {x : Except ε α} {a : α} (h : x.toOption = some a) :
    x = .ok a := by
  cases x with
  | error e => cases h
  | ok b => rw [Option.some.inj h]

theorem eq_ok_ok_of_toOption {ε ε' α : Type} {x : Except ε (Except ε' α)} {a : α}
    (h : x.toOption.bind Except.toOption = some a) : x = .ok (.ok a) := by
  obtain ⟨y, hx, hy⟩ := Option.bind_eq_some_iff.1 h
  rw [eq_ok_of_toOption hx, eq_ok_of_toOption hy]

def isMetadata (r : Http.Request) : Bool := r.headers.any (·.1 = "metadata-flavor")

/-- The outcome of a request by its reply. -/
def received (endpoint : String) (u : Url) :
    Http.Reply → Except SourceFault (List UInt8 × Bool)
  | .lost _ => .error (.request endpoint s!"error sending request for url ({u.withoutUser.text})")
  | .answer status body complete =>
    if Http.isSuccess status then .ok (body, complete) else .error (.status endpoint status)

/-- The document in a reply as `read` reads it, if the reply is a success and whole. -/
def documentIn {α : Type} (read : Json.Reader α) : Http.Reply → Option α
  | .lost _ => none
  | .answer status body complete =>
    if Http.isSuccess status then
      if complete then Json.ofBytes? body >>= read else none
    else none

/-! ## Requests -/

theorem userHeaders_fst {u : Url} {h : String × String} (hm : h ∈ userHeaders u) :
    h.1 = "authorization" := by
  unfold userHeaders at hm
  split at hm
  · split at hm
    · cases hm
    · rw [List.mem_singleton.1 hm]
  · cases hm

/-- Nothing keeps a request for the URL from being sent. -/
structure Sendable (u : Url) (headers : List (String × String)) : Prop where
  host : hasHost u = true
  printable : headers.all (isHeaderText ·.2) = true
  web : u.scheme = "http".toList ∨ u.scheme = "https".toList
  address : Http.Uri.isSendable (site u) u.resource = true

theorem prepare_eq_ok_iff {endpoint : String} {u : Url} {headers : List (String × String)}
    {r : Http.Request} : prepare endpoint u headers = .ok r ↔ Sendable u headers ∧
      r = { origin := origin u, target := u.target, headers := userHeaders u ++ headers } := by
  constructor
  · intro h
    unfold prepare at h
    split at h
    · cases h
    split at h
    · cases h
    split at h
    · cases h
    split at h
    · cases h
    rename_i hhost hprintable hweb haddress
    exact ⟨⟨by simpa using hhost, by simpa using hprintable,
      Decidable.or_iff_not_not_and_not.2 hweb, by simpa using haddress⟩, (Except.ok.inj h).symm⟩
  · rintro ⟨⟨hhost, hprintable, hweb, haddress⟩, rfl⟩
    unfold prepare
    rw [if_neg (by simp [hhost]), if_neg (by simp [hprintable]),
      if_neg (Decidable.or_iff_not_not_and_not.1 hweb), if_neg (by simp [haddress])]

theorem prepare_eq_ok {endpoint : String} {u : Url} {headers : List (String × String)}
    {r : Http.Request} (h : prepare endpoint u headers = .ok r) :
    r.target = u.target ∧ r.headers = userHeaders u ++ headers := by
  obtain ⟨-, rfl⟩ := prepare_eq_ok_iff.1 h
  exact ⟨rfl, rfl⟩

theorem isMetadata_prepare {endpoint : String} {u : Url} {headers : List (String × String)}
    {r : Http.Request} (h : prepare endpoint u headers = .ok r) :
    isMetadata r = headers.any (·.1 = "metadata-flavor") := by
  have huser : (userHeaders u).any (·.1 = "metadata-flavor") = false := by
    refine List.any_eq_false.2 fun p hp => ?_
    rw [userHeaders_fst hp]
    decide
  rw [isMetadata, (prepare_eq_ok h).2, List.any_append, huser, Bool.false_or]

/-! ## Sending -/

theorem fetch_refused {endpoint : String} {u : Url} {headers : List (String × String)}
    {fault : SourceFault} (h : prepare endpoint u headers = .error fault) (s : σ) :
    Returns reply (fetch endpoint u headers) s (.error fault) s [] := by
  unfold fetch
  rw [h]
  exact .done _ _

theorem fetch_sent {endpoint : String} {u : Url} {headers : List (String × String)}
    {r : Http.Request} (h : prepare endpoint u headers = .ok r) (s : σ) :
    Returns reply (fetch endpoint u headers) s (received endpoint u (reply r s).1) (reply r s).2
      [⟨r, (reply r s).1⟩] := by
  unfold fetch
  rw [h]
  refine Returns.bind (.ask rfl) ?_
  cases (reply r s).1 with
  | lost reasons => exact .done _ _
  | answer status body complete =>
    dsimp only [received]
    split <;> exact .done _ _

theorem fetch_returns (reply : (r : Http.port.Call) → σ → Http.port.Reply r × σ)
    (endpoint : String) (u : Url) (headers : List (String × String)) (s : σ) :
    ∃ v t log, Returns reply (fetch endpoint u headers) s v t log ∧
      ∀ e ∈ log, isMetadata e.1 = headers.any (·.1 = "metadata-flavor") := by
  cases h : prepare endpoint u headers with
  | error fault => exact ⟨_, _, _, fetch_refused h s, by simp⟩
  | ok r =>
    refine ⟨_, _, _, fetch_sent h s, fun e he => ?_⟩
    rw [List.mem_singleton.1 he]
    exact isMetadata_prepare h

theorem fetchText_returns (reply : (r : Http.port.Call) → σ → Http.port.Reply r × σ)
    (endpoint url : String) (headers : List (String × String)) (s : σ) :
    ∃ v t log, Returns reply (fetchText endpoint url headers) s v t log ∧
      ∀ e ∈ log, isMetadata e.1 = headers.any (·.1 = "metadata-flavor") := by
  unfold fetchText
  cases Url.parse url with
  | error fault => exact ⟨_, _, _, .done _ _, by simp⟩
  | ok u => exact fetch_returns reply endpoint u headers s

theorem Metadata.get_returns (reply : (r : Http.port.Call) → σ → Http.port.Reply r × σ)
    (server : Metadata) (path : String) (s : σ) :
    ∃ answer, ((server.get path).run reply s).value = .ok answer := by
  obtain ⟨v, t, log, hfetch, -⟩ := fetchText_returns reply path (server.url path) Metadata.headers s
  have hget : Returns reply (server.get path) s (v >>= textBody path) t (log ++ []) := by
    unfold Metadata.get
    apply Returns.tell_bind
    exact hfetch.bind (.done _ t)
  exact ⟨_, hget.value⟩

theorem accessToken_returns (reply : (r : Http.port.Call) → σ → Http.port.Reply r × σ)
    (server : Metadata) (s : σ) :
    ∃ v t log, Returns reply server.accessToken s v t log ∧ ∀ e ∈ log, isMetadata e.1 = true := by
  obtain ⟨v, t, log, h, hlog⟩ := fetchText_returns reply Metadata.tokenPath
    (server.url Metadata.tokenPath) Metadata.headers s
  have hflavor : Metadata.headers.any (·.1 = "metadata-flavor") = true := by decide
  exact ⟨_, t, log ++ [], h.bind (.done _ _), by simpa [hflavor] using hlog⟩

/-- Getting a token takes no request but to a metadata server. -/
theorem token_returns (reply : (r : Http.port.Call) → σ → Http.port.Reply r × σ)
    (tokens : TokenSource) (s : σ) :
    ∃ v t log, Returns reply tokens.token s v t log ∧ ∀ e ∈ log, isMetadata e.1 = true := by
  cases tokens with
  | fixed token => exact ⟨_, _, _, .done _ _, by simp⟩
  | metadata server =>
    obtain ⟨v, t, log, h, hlog⟩ := accessToken_returns reply server s
    cases v with
    | ok token => exact ⟨_, t, log ++ [], h.bind (.done _ _), by simpa using hlog⟩
    | error fault => exact ⟨_, t, log ++ [], h.bind (.done _ _), by simpa using hlog⟩

theorem toOption_jsonBody {α : Type} (read : Json.Reader α) (endpoint : String)
    (body : List UInt8 × Bool) : (jsonBody read endpoint body).toOption =
      if body.2 then Json.ofBytes? body.1 >>= read else none := by
  unfold jsonBody
  split <;> rename_i h <;> rw [h] <;> rfl

theorem toOption_received_jsonBody {α : Type} (read : Json.Reader α) (endpoint : String) (u : Url)
    (answer : Http.Reply) : (received endpoint u answer >>= jsonBody read endpoint).toOption =
      documentIn read answer := by
  cases answer with
  | lost reasons => rfl
  | answer status body complete =>
    cases hs : Http.isSuccess status with
    | false => simp only [received, documentIn, hs]; rfl
    | true =>
      simp only [received, documentIn, hs, if_true]
      exact toOption_jsonBody read endpoint (body, complete)

/-! ## Pages -/

namespace Monitoring

variable (m : Monitoring) (project instanceId : String) (window : Window) (page : Option String)

/-- The parameters that the base URL has of its own. -/
def ownParameters : List (String × String) :=
  match Url.parse (Url.join m.base s!"v3/projects/{project}/timeSeries") with
  | .ok base => Url.Form.decode (base.query.getD [])
  | .error _ => []

/-- The page token in a request, among the parameters that were added to those of the base URL. -/
def pageToken? (r : Http.Request) : Option String :=
  ((Url.Form.decode r.query).drop (ownParameters m project).length).lookup "pageToken"

theorem lookup_pageQuery : (pageQuery instanceId window page).lookup "pageToken" = page := by
  cases page <;> simp [pageQuery, lookup_entry_cons]

theorem pageToken?_of_target {base : Url}
    (hbase : Url.parse (Url.join m.base s!"v3/projects/{project}/timeSeries") = .ok base)
    {r : Http.Request}
    (hr : r.target = (base.addQuery (pageQuery instanceId window page)).target) :
    pageToken? m project r = page := by
  have hown : ownParameters m project = Url.Form.decode (base.query.getD []) := by
    rw [ownParameters, hbase]
  rw [pageToken?, Url.query_of_target hbase _ hr, Url.Form.decode_append, hown, List.drop_left,
    lookup_pageQuery]

/-- The page in a reply, if it is one. -/
def pageIn : Http.Reply → Option Page
  | .lost _ => none
  | .answer status body complete =>
    if Http.isSuccess status then
      if complete then Json.ofBytes? body >>= readPage else none
    else none

theorem toOption_received (u : Url) (answer : Http.Reply) :
    (received endpoint u answer >>= jsonBody readPage endpoint).toOption = pageIn answer :=
  toOption_received_jsonBody readPage endpoint u answer

/-- What a page takes: maybe a token, and then maybe the page itself. -/
inductive PageLog (reply : (r : Http.port.Call) → σ → Http.port.Reply r × σ) :
    Except SourceFault Page → List (Exchange Http.port) → Prop
  | unsent {fault : SourceFault} {log : List (Exchange Http.port)}
      (hlog : ∀ e ∈ log, isMetadata e.1 = true) : PageLog reply (.error fault) log
  | sent {v : Except SourceFault Page} {log : List (Exchange Http.port)} {base : Url}
      {r : Http.Request} {t : σ} (hlog : ∀ e ∈ log, isMetadata e.1 = true)
      (hr : isMetadata r = false)
      (hbase : Url.parse (Url.join m.base s!"v3/projects/{project}/timeSeries") = .ok base)
      (htarget : r.target = (base.addQuery (pageQuery instanceId window page)).target)
      (hsend : ∃ headers, Sendable (base.addQuery (pageQuery instanceId window page)) headers)
      (hv : v.toOption = pageIn (reply r t).1) : PageLog reply v (log ++ [⟨r, (reply r t).1⟩])

theorem url_eq_ok {u : Url} (h : m.url project instanceId window page = .ok u) :
    ∃ base, Url.parse (Url.join m.base s!"v3/projects/{project}/timeSeries") = .ok base ∧
      u = base.addQuery (pageQuery instanceId window page) := by
  unfold url at h
  split at h
  · cases h
  · rename_i base hbase
    cases h
    exact ⟨base, hbase, rfl⟩

theorem fetchPage_sent {u : Url} {token : String} {r : Http.Request}
    {log : List (Exchange Http.port)} (hu : m.url project instanceId window page = .ok u)
    (ht : Returns reply m.tokens.token s (.ok token) t log)
    (hr : prepare endpoint u [bearer token] = .ok r) :
    Returns reply (m.fetchPage project instanceId window page) s
      (received endpoint u (reply r t).1 >>= jsonBody readPage endpoint) (reply r t).2
      (log ++ [⟨r, (reply r t).1⟩]) := by
  unfold fetchPage
  rw [hu]
  exact ht.bind ((fetch_sent hr t).bind (.done _ _))

theorem fetchPage_refused {u : Url} {token : String} {fault : SourceFault}
    {log : List (Exchange Http.port)} (hu : m.url project instanceId window page = .ok u)
    (ht : Returns reply m.tokens.token s (.ok token) t log)
    (hr : prepare endpoint u [bearer token] = .error fault) :
    Returns reply (m.fetchPage project instanceId window page) s (.error fault) t log := by
  unfold fetchPage
  rw [hu]
  exact ht.bind_silent ((fetch_refused hr t).bind_silent (.done _ _))

theorem fetchPage_returns (reply : (r : Http.port.Call) → σ → Http.port.Reply r × σ) (s : σ) :
    ∃ v t log,
    Returns reply (m.fetchPage project instanceId window page) s v t log ∧
      PageLog m project instanceId window page reply v log := by
  cases hu : m.url project instanceId window page with
  | error fault =>
    refine ⟨.error fault, s, [], ?_, .unsent (by simp)⟩
    unfold fetchPage
    rw [hu]
    exact .done _ _
  | ok u =>
    obtain ⟨token, t, log, ht, hlog⟩ := token_returns reply m.tokens s
    cases token with
    | error fault =>
      refine ⟨.error fault, t, log ++ [], ?_, .unsent (by simpa using hlog)⟩
      unfold fetchPage
      rw [hu]
      exact ht.bind (.done _ _)
    | ok token =>
      cases hr : prepare endpoint u [bearer token] with
      | error fault =>
        exact ⟨.error fault, t, log, fetchPage_refused m project instanceId window page hu ht hr,
          .unsent hlog⟩
      | ok r =>
        refine ⟨_, _, _, fetchPage_sent m project instanceId window page hu ht hr, ?_⟩
        obtain ⟨base, hbase, rfl⟩ := url_eq_ok m project instanceId window page hu
        exact .sent hlog (isMetadata_prepare hr) hbase (prepare_eq_ok hr).1
          ⟨_, (prepare_eq_ok_iff.1 hr).1⟩ (toOption_received _ _)

theorem pageLog_of_returns {v : Except SourceFault Page} {log : List (Exchange Http.port)}
    (h : Returns reply (m.fetchPage project instanceId window page) s v t log) :
    PageLog m project instanceId window page reply v log := by
  obtain ⟨v', t', log', h', hlog⟩ := fetchPage_returns m project instanceId window page reply s
  obtain ⟨rfl, -, rfl⟩ := h.unique h'
  exact hlog

end Monitoring

end NodeLabels.Cloud
