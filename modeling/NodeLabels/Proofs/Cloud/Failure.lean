import NodeLabels.Proofs.Cloud.EarlyStop
/-!
# Failures between the pages

A page fails at one of four stages: there is no token to be had, its request does not get through,
it is refused, or its answer makes no page. `PageFails` has the fault that belongs to each. A query
that comes over quiet pages to one that fails returns that fault and nothing of what it has found,
and these are the only faults it returns, but for a URL that cannot be built.
-/

namespace NodeLabels.Cloud.Monitoring

open Dialogue (Exchange Returns)

/-- Every fault in front of a request is one of the request. -/
theorem prepare_eq_error {endpoint : String} {u : Url} {headers : List (String × String)}
    {fault : SourceFault} (h : prepare endpoint u headers = .error fault) :
    ∃ why, fault = .request endpoint why := by
  unfold prepare at h
  split at h
  · exact ⟨_, (Except.error.inj h).symm⟩
  split at h
  · exact ⟨_, (Except.error.inj h).symm⟩
  split at h
  · exact ⟨_, (Except.error.inj h).symm⟩
  split at h
  · exact ⟨_, (Except.error.inj h).symm⟩
  · cases h

variable {σ : Type} (m : Monitoring) (project instanceId : String) (window : Window)
  (reply : (r : Http.port.Call) → σ → Http.port.Reply r × σ)

/-- The request for a page, once its URL is built and a token is had. -/
structure Ready (page : Option String) (s : σ) (u : Url) (r : Http.Request) (t : σ)
    (log : List (Exchange Http.port)) : Prop where
  url : m.url project instanceId window page = .ok u
  sendable : ∃ token, Returns reply m.tokens.token s (.ok token) t log ∧
    prepare endpoint u [bearer token] = .ok r

/-- The page is read from a whole and successful answer. -/
inductive PageReads (page : Option String) (s : σ) (p : Page) :
    σ → List (Exchange Http.port) → Prop
  | read {u : Url} {r : Http.Request} {t : σ} {log : List (Exchange Http.port)} {status : Nat}
      {body : List UInt8} (ready : Ready m project instanceId window reply page s u r t log)
      (hanswer : (reply r t).1 = .answer status body) (hstatus : Http.isSuccess status = true)
      (hbody : Json.ofBytes? body >>= readPage = some p) :
      PageReads page s p (reply r t).2 (log ++ [⟨r, (reply r t).1⟩])

/-- The stages at which a page fails. -/
inductive PageFails (page : Option String) (s : σ) :
    SourceFault → σ → List (Exchange Http.port) → Prop
  | token {u : Url} {server : Metadata} {cause : SourceFault} {t : σ}
      {log : List (Exchange Http.port)} (hurl : m.url project instanceId window page = .ok u)
      (htokens : m.tokens = .metadata server)
      (hcause : Returns reply server.accessToken s (.error cause) t log) :
      PageFails page s (.auth cause.message) t log
  | unsendable {u : Url} {token why : String} {t : σ} {log : List (Exchange Http.port)}
      (hurl : m.url project instanceId window page = .ok u)
      (htoken : Returns reply m.tokens.token s (.ok token) t log)
      (hrequest : prepare endpoint u [bearer token] = .error (.request endpoint why)) :
      PageFails page s (.request endpoint why) t log
  | lost {u : Url} {r : Http.Request} {t : σ} {log : List (Exchange Http.port)}
      {reasons : List String} (ready : Ready m project instanceId window reply page s u r t log)
      (hlost : (reply r t).1 = .lost reasons) :
      PageFails page s
        (.request endpoint s!"error sending request for url ({u.withoutUser.text})")
        (reply r t).2 (log ++ [⟨r, (reply r t).1⟩])
  | status {u : Url} {r : Http.Request} {t : σ} {log : List (Exchange Http.port)} {status : Nat}
      {body : List UInt8} {complete : Bool}
      (ready : Ready m project instanceId window reply page s u r t log)
      (hanswer : (reply r t).1 = .answer status body complete)
      (hstatus : Http.isSuccess status = false) :
      PageFails page s (.status endpoint status) (reply r t).2 (log ++ [⟨r, (reply r t).1⟩])
  | body {u : Url} {r : Http.Request} {t : σ} {log : List (Exchange Http.port)} {status : Nat}
      {body : List UInt8} {complete : Bool}
      (ready : Ready m project instanceId window reply page s u r t log)
      (hanswer : (reply r t).1 = .answer status body complete)
      (hstatus : Http.isSuccess status = true)
      (hbody : complete = false ∨ Json.ofBytes? body >>= readPage = none) :
      PageFails page s (.decode endpoint "error decoding response body") (reply r t).2
        (log ++ [⟨r, (reply r t).1⟩])

variable {m project instanceId window reply} {page : Option String} {s t : σ} {u : Url}
  {r : Http.Request} {p : Page} {fault : SourceFault} {log : List (Exchange Http.port)}

/-! ## One page -/

theorem token_denied {tokens : TokenSource} {fault : SourceFault} :
    Returns reply tokens.token s (.error fault) t log ↔ ∃ server cause,
      tokens = .metadata server ∧ fault = .auth cause.message ∧
        Returns reply server.accessToken s (.error cause) t log := by
  have hdenied {server : Metadata} {cause : SourceFault} {t : σ} {log : List (Exchange Http.port)}
      (h : Returns reply server.accessToken s (.error cause) t log) :
      Returns reply (TokenSource.metadata server).token s (.error (.auth cause.message)) t log :=
    h.bind_silent (.done _ _)
  constructor
  · intro h
    cases tokens with
    | fixed token => cases h.value
    | metadata server =>
      obtain ⟨v, t', log', hserver, -⟩ := accessToken_returns reply server s
      cases v with
      | ok token =>
        have hgranted : Returns reply (TokenSource.metadata server).token s (.ok token) t' log' :=
          hserver.bind_silent (.done _ _)
        cases (h.unique hgranted).1
      | error cause =>
        obtain ⟨hfault, rfl, rfl⟩ := h.unique (hdenied hserver)
        exact ⟨server, cause, rfl, Except.error.inj hfault, hserver⟩
  · rintro ⟨server, cause, rfl, rfl, h⟩
    exact hdenied h

/-- What is made of the answer to the request for a page. -/
theorem Ready.returns {v : Except SourceFault Page}
    (ready : Ready m project instanceId window reply page s u r t log)
    (hv : (received endpoint u (reply r t).1 >>= jsonBody readPage endpoint) = v) :
    Returns reply (m.fetchPage project instanceId window page) s v (reply r t).2
      (log ++ [⟨r, (reply r t).1⟩]) := by
  obtain ⟨token, htoken, hr⟩ := ready.sendable
  rw [← hv]
  exact fetchPage_sent m project instanceId window page ready.url htoken hr

theorem jsonBody_of_some {α : Type} {read : Json.Reader α} {endpoint : String} {body : List UInt8}
    {a : α} (h : Json.ofBytes? body >>= read = some a) :
    jsonBody read endpoint (body, true) = .ok a :=
  eq_ok_of_toOption ((toOption_jsonBody read endpoint (body, true)).trans h)

theorem jsonBody_of_none {α : Type} {read : Json.Reader α} {endpoint : String} {body : List UInt8}
    {complete : Bool} (h : complete = false ∨ Json.ofBytes? body >>= read = none) :
    jsonBody read endpoint (body, complete) = .error (undecodable endpoint) := by
  have hnone : (if complete then Json.ofBytes? body >>= read else none) = none := by
    rcases h with rfl | h
    · rfl
    · simp [h]
  simp only [jsonBody, hnone]

theorem PageReads.returns (h : PageReads m project instanceId window reply page s p t log) :
    Returns reply (m.fetchPage project instanceId window page) s (.ok p) t log := by
  cases h with
  | read ready hanswer hstatus hbody =>
    refine ready.returns ?_
    rw [hanswer, received, hstatus, if_pos rfl]
    exact jsonBody_of_some hbody

theorem PageFails.returns (h : PageFails m project instanceId window reply page s fault t log) :
    Returns reply (m.fetchPage project instanceId window page) s (.error fault) t log := by
  cases h with
  | token hurl htokens hcause =>
    unfold fetchPage
    rw [hurl]
    exact (token_denied.2 ⟨_, _, htokens, rfl, hcause⟩).bind_silent (.done _ _)
  | unsendable hurl htoken hrequest =>
    exact fetchPage_refused m project instanceId window page hurl htoken hrequest
  | lost ready hlost =>
    refine ready.returns ?_
    rw [hlost]
    rfl
  | status ready hanswer hstatus =>
    refine ready.returns ?_
    rw [hanswer, received, hstatus, if_neg Bool.false_ne_true]
    rfl
  | body ready hanswer hstatus hbody =>
    refine ready.returns ?_
    rw [hanswer, received, hstatus, if_pos rfl]
    exact jsonBody_of_none hbody

/-- Whatever the world replies, a page is read or fails, unless its URL cannot be built. -/
theorem page_reads_or_fails (reply : (r : Http.port.Call) → σ → Http.port.Reply r × σ)
    (hurl : m.url project instanceId window page = .ok u) (s : σ) :
    (∃ p t log, PageReads m project instanceId window reply page s p t log) ∨
      ∃ fault t log, PageFails m project instanceId window reply page s fault t log := by
  obtain ⟨token, t, log, htoken, -⟩ := token_returns reply m.tokens s
  cases token with
  | error fault =>
    obtain ⟨server, cause, htokens, -, hcause⟩ := token_denied.1 htoken
    exact .inr ⟨_, t, log, .token hurl htokens hcause⟩
  | ok token =>
    cases hr : prepare endpoint u [bearer token] with
    | error fault =>
      obtain ⟨why, rfl⟩ := prepare_eq_error hr
      exact .inr ⟨_, t, log, .unsendable hurl htoken hr⟩
    | ok r =>
      have ready : Ready m project instanceId window reply page s u r t log :=
        ⟨hurl, token, htoken, hr⟩
      cases hanswer : (reply r t).1 with
      | lost reasons => exact .inr ⟨_, _, _, .lost ready hanswer⟩
      | answer status body complete =>
        cases hstatus : Http.isSuccess status with
        | false => exact .inr ⟨_, _, _, .status ready hanswer hstatus⟩
        | true =>
          cases complete with
          | false => exact .inr ⟨_, _, _, .body ready hanswer hstatus (.inl rfl)⟩
          | true =>
            cases hbody : Json.ofBytes? body >>= readPage with
            | none => exact .inr ⟨_, _, _, .body ready hanswer hstatus (.inr hbody)⟩
            | some p => exact .inl ⟨p, _, _, .read ready hanswer hstatus hbody⟩

theorem fetchPage_unbuilt (hurl : m.url project instanceId window page = .error fault) (s : σ) :
    Returns reply (m.fetchPage project instanceId window page) s (.error fault) s [] := by
  unfold fetchPage
  rw [hurl]
  exact .done _ _

theorem pageReads_of_returns
    (h : Returns reply (m.fetchPage project instanceId window page) s (.ok p) t log) :
    PageReads m project instanceId window reply page s p t log := by
  cases hurl : m.url project instanceId window page with
  | error fault => cases (h.unique (fetchPage_unbuilt hurl s)).1
  | ok u =>
    obtain ⟨p', t', log', hreads⟩ | ⟨fault, t', log', hfails⟩ :=
      page_reads_or_fails reply hurl s
    · obtain ⟨hp, rfl, rfl⟩ := h.unique hreads.returns
      cases hp
      exact hreads
    · cases (h.unique hfails.returns).1

theorem pageFails_of_returns (hurl : m.url project instanceId window page = .ok u)
    (h : Returns reply (m.fetchPage project instanceId window page) s (.error fault) t log) :
    PageFails m project instanceId window reply page s fault t log := by
  obtain ⟨p, t', log', hreads⟩ | ⟨fault', t', log', hfails⟩ :=
    page_reads_or_fails reply hurl s
  · cases (h.unique hreads.returns).1
  · obtain ⟨hfault, rfl, rfl⟩ := h.unique hfails.returns
    cases hfault
    exact hfails

theorem PageReads.exists_url (h : PageReads m project instanceId window reply page s p t log) :
    ∃ u, m.url project instanceId window page = .ok u := by
  obtain ⟨ready, -, -, -⟩ := h
  exact ⟨_, ready.url⟩

/-- The URLs of all pages can be built or none. -/
theorem exists_url_of_ok (hurl : m.url project instanceId window none = .ok u)
    (page : Option String) : ∃ u', m.url project instanceId window page = .ok u' := by
  obtain ⟨base, hbase, -⟩ := url_eq_ok m project instanceId window none hurl
  exact ⟨_, by rw [url, hbase]⟩

/-! ## Pages without a prediction -/

/-- The pages are read one after the other. None of them has a prediction, and each names a fresh
token, the last one that of `page'`. -/
inductive QuietPages (m : Monitoring) (project instanceId : String) (window : Window)
    (reply : (r : Http.port.Call) → σ → Http.port.Reply r × σ) :
    (page : Option String) → (seen : List String) → σ → List Page → (page' : Option String) →
      (seen' : List String) → σ → List (Exchange Http.port) → Prop
  | none {page : Option String} {seen : List String} {s : σ} :
      QuietPages m project instanceId window reply page seen s [] page seen s []
  | next {page page' : Option String} {seen seen' : List String} {s t u : σ} {p : Page}
      {pages : List Page} {token : String} {log rest : List (Exchange Http.port)}
      (reads : PageReads m project instanceId window reply page s p t log)
      (quiet : ¬ p.Predicts) (named : p.next? = some token) (fresh : token ∉ seen)
      (onward : QuietPages m project instanceId window reply (some token) (token :: seen) t pages
        page' seen' u rest) :
      QuietPages m project instanceId window reply page seen s (p :: pages) page' seen' u
        (log ++ rest)

variable {page' : Option String} {seen seen' : List String} {found : List Series}
  {pages : List Page} {patience : Nat} {rest : List (Exchange Http.port)} {w : σ}
  {v : Except SourceFault (List Series)}

theorem quiet_append (hfound : ∀ x ∈ found, x.prediction? = none) (hp : ¬ p.Predicts) :
    ∀ x ∈ found ++ p.series, x.prediction? = none :=
  List.forall_mem_append.2 ⟨hfound, not_predicts_iff.1 hp⟩

/-- What a query finds on quiet pages makes no difference to where it goes. -/
theorem QuietPages.collect
    (h : QuietPages m project instanceId window reply page seen s pages page' seen' t log)
    (hfound : ∀ x ∈ found, x.prediction? = Option.none)
    (hrest : Returns reply (m.collect project instanceId window patience page' seen'
      (found ++ seriesOf pages)) t v w rest) :
    Returns reply (m.collect project instanceId window (pages.length + patience) page seen found) s
      v w (log ++ rest) := by
  induction h generalizing found with
  | none => simpa [seriesOf] using hrest
  | @next page page' seen seen' s t u p pages token log rest' reads quiet named fresh onward ih =>
    have hfollow : following seen found p = some token := by
      rw [following_of_not_predicts quiet hfound, named]
      simp [fresh]
    rw [seriesOf_cons, ← List.append_assoc] at hrest
    have honward := ih (quiet_append hfound quiet) hrest
    rw [List.length_cons, Nat.add_right_comm, List.append_assoc]
    exact collect_next _ reads.returns hfollow honward

/-- A query that returns a fault has come over quiet pages to one that could not be had. -/
theorem exists_quietPages (hfound : ∀ x ∈ found, x.prediction? = none)
    (h : Returns reply (m.collect project instanceId window patience page seen found) s
      (.error fault) w log) :
    ∃ pages page' seen' t log₁ log₂, pages.length < patience ∧ log = log₁ ++ log₂ ∧
      QuietPages m project instanceId window reply page seen s pages page' seen' t log₁ ∧
      Returns reply (m.fetchPage project instanceId window page') t (.error fault) w log₂ := by
  induction patience generalizing page seen found s log with
  | zero => exact nomatch h.value
  | succ patience ih =>
    obtain ⟨result, t, log₁, more, hfetch, hmore, rfl⟩ := h.exists_of_bind
    cases result with
    | error fault' =>
      obtain ⟨hfault, rfl, hlog⟩ := h.unique (collect_failed patience hfetch)
      cases hfault
      exact ⟨[], page, seen, s, [], log₁, Nat.succ_pos _, hlog, .none, hfetch⟩
    | ok p =>
      cases hfollow : following seen found p with
      | none => cases (h.unique (collect_last patience hfetch hfollow)).1
      | some token =>
        obtain ⟨hany, hnamed, hfresh⟩ := following_eq_some.1 hfollow
        have hquiet : ¬ p.Predicts := by
          rw [any_append_series hfound] at hany
          exact of_decide_eq_false hany
        simp only [hany, hnamed, if_neg hfresh, Bool.false_eq_true, if_false] at hmore
        obtain ⟨pages, page', seen', t', log₂, log₃, hlength, rfl, honward, hfails⟩ :=
          ih (quiet_append hfound hquiet) hmore
        exact ⟨p :: pages, page', seen', t', log₁ ++ log₂, log₃, Nat.succ_lt_succ hlength,
          (List.append_assoc _ _ _).symm,
          .next (pageReads_of_returns hfetch) hquiet hnamed hfresh honward, hfails⟩

/-- A query returns a fault if and only if it collects to it. -/
theorem predictionSeries_error_iff :
    Returns reply (m.predictionSeries patience project instanceId window) s (.error fault) w log ↔
      Returns reply (m.collect project instanceId window patience none [] []) s (.error fault) w
        log := by
  constructor
  · intro h
    obtain ⟨result, t, log₁, more, hcollect, hmore, rfl⟩ := h.exists_of_bind
    cases result with
    | error fault' =>
      obtain ⟨hfault, rfl, rfl⟩ := hmore.unique (.done _ _)
      cases hfault
      rwa [List.append_nil]
    | ok found => cases hmore.value
  · exact fun h => h.bind_silent (.done _ _)

/-! ## Queries -/

theorem predictionSeries_fails_iff (m : Monitoring) (project instanceId : String) (window : Window)
    {σ : Type} (reply : (r : Http.port.Call) → σ → Http.port.Reply r × σ) (patience : Nat)
    (s w : σ) (fault : SourceFault) (log : List (Exchange Http.port)) :
    Returns reply (m.predictionSeries patience project instanceId window) s (.error fault) w log ↔
      (∃ pages page seen t log₁ log₂, pages.length < patience ∧ log = log₁ ++ log₂ ∧
        QuietPages m project instanceId window reply none [] s pages page seen t log₁ ∧
        PageFails m project instanceId window reply page t fault w log₂) ∨
      (0 < patience ∧ m.url project instanceId window none = .error fault ∧ w = s ∧ log = []) := by
  have hnothing : ∀ x ∈ ([] : List Series), x.prediction? = none := by simp
  rw [predictionSeries_error_iff]
  constructor
  · intro h
    obtain ⟨pages, page, seen, t, log₁, log₂, hlength, hlog, hquiet, hfetch⟩ :=
      exists_quietPages hnothing h
    cases hurl : m.url project instanceId window none with
    | ok u =>
      obtain ⟨u', hu'⟩ := exists_url_of_ok hurl page
      exact .inl ⟨pages, page, seen, t, log₁, log₂, hlength, hlog, hquiet,
        pageFails_of_returns hu' hfetch⟩
    | error fault' =>
      obtain ⟨patience, rfl⟩ := Nat.exists_eq_succ_of_ne_zero (Nat.ne_zero_of_lt hlength)
      obtain ⟨hfault, rfl, rfl⟩ := h.unique (collect_failed patience (fetchPage_unbuilt hurl s))
      exact .inr ⟨Nat.succ_pos _, congrArg Except.error (Except.error.inj hfault).symm, rfl, rfl⟩
  · rintro (⟨pages, page, seen, t, log₁, log₂, hlength, rfl, hquiet, hfails⟩ |
      ⟨hpatience, hurl, rfl, rfl⟩)
    · obtain ⟨more, rfl⟩ := Nat.exists_eq_add_of_lt hlength
      have hcollect := hquiet.collect hnothing (collect_failed more hfails.returns)
      rwa [← Nat.add_assoc] at hcollect
    · obtain ⟨patience, rfl⟩ := Nat.exists_eq_succ_of_ne_zero (Nat.ne_of_gt hpatience)
      exact collect_failed patience (fetchPage_unbuilt hurl w)

end NodeLabels.Cloud.Monitoring
