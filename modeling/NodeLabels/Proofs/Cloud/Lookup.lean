import Mathlib.Data.List.Basic
import Mathlib.Tactic.SplitIfs
import NodeLabels.Cloud.Compute
import NodeLabels.Proofs.Cloud.Fetch
import NodeLabels.Proofs.Cloud.Gets
import NodeLabels.Proofs.Http.Uri
import NodeLabels.Proofs.Text.Digits
import NodeLabels.Proofs.Url.Segments
/-!
# The path of a lookup

The path that is asked for is put together from texts that come from nodes, and read again as a URL.
The server sees the project, the zone and the name that were meant exactly if each of them is a
segment as it stands (`instanceId_asks_exactly`). Other texts can be taken for other instances
(`lookups_confused`), and a URL that is too long for a request is not asked for at all.
-/

namespace NodeLabels.Cloud

open Dialogue (Exchange Returns)

/-- An address without a path: a host in characters that a request takes, and maybe a port. -/
structure PlainBase (base : String) (authority : List Char) : Prop where
  text : base.toList = "http://".toList ++ authority
  plain : ∀ c ∈ authority, Url.isPlain c = true
  readable : ∃ a, Url.authority? "http".toList authority = .ok a ∧
    ∀ c ∈ a.host.chars, Http.Uri.isSiteChar c = true

namespace PlainBase

variable {base : String} {authority : List Char} (h : PlainBase base authority)

include h

theorem ne_nil : authority ≠ [] := by
  rintro rfl
  obtain ⟨a, ha, -⟩ := h.readable
  exact nomatch ha

theorem join {path : String} (hpath : path.toList.head? ≠ some '/') :
    Url.join base path =
      String.ofList ("http://".toList ++ (authority ++ '/' :: path.toList)) := by
  have hfront : ("http://".toList ++ authority).reverse.dropWhile (· = '/') =
      ("http://".toList ++ authority).reverse := by
    obtain ⟨front, c, rfl⟩ := (List.eq_nil_or_concat authority).resolve_left h.ne_nil
    have hc : c ≠ '/' := by
      rintro rfl
      exact absurd (h.plain '/' (by simp)) (by decide)
    simp [List.concat_eq_append, hc]
  have hback : path.toList.dropWhile (· = '/') = path.toList := by
    cases hp : path.toList with
    | nil => rfl
    | cons c cs =>
      have hc : c ≠ '/' := by simpa [hp] using hpath
      simp [hc]
  rw [Url.join, h.text, hfront, hback, List.reverse_reverse, List.append_assoc]

end PlainBase

theorem chars_special_ne_nil {cs : List Char} {host : Url.Host}
    (h : Url.Host.special cs = .ok host) : host.chars ≠ [] := by
  unfold Url.Host.special at h
  split at h
  · split_ifs at h
    split at h
    · cases h
      exact List.cons_ne_nil _ _
    · cases h
  split at h
  · cases h
  · cases h
  rename_i text hne _
  split_ifs at h
  · split at h
    · cases h
      simp [Url.Host.chars, Url.Host.ipv4Text, Text.joinWith]
    · cases h
  · cases h
    rintro rfl
    exact hne rfl

theorem special_of_authority? {cs : List Char} {a : Url.Authority}
    (h : Url.authority? "http".toList cs = .ok a) : ∃ host, Url.Host.special host = .ok a.host := by
  have hspecial : Url.isSpecial "http".toList = true := by decide
  unfold Url.authority? at h
  cases hcut : Url.cutUser cs <;>
    simp only [hcut, bind, Except.bind, pure, Except.pure, throw, throwThe,
      MonadExceptOf.throw, hspecial, if_true] at h
  all_goals
    split_ifs at h
    split at h
    · cases h
    rename_i host hhost
    split at h
    · cases h
    · cases h
      exact ⟨_, hhost⟩

/-! ## The address -/

section

variable {u : Url} {a : Url.Authority} (ha : u.authority = some a)

include ha

theorem site_eq :
    site u = u.scheme ++ "://".toList ++ (a.host.chars ++ Url.portChars a.port) := by
  simp [site, Url.withoutUser, ha, Url.Authority.chars]

theorem chars_withoutUser : u.withoutUser.chars = site u ++ u.resource := by
  simp [Url.chars, Url.withoutUser, site, ha, Url.resource]

theorem isSiteChar_of_mem_site (hscheme : u.scheme = "http".toList)
    (hhost : ∀ c ∈ a.host.chars, Http.Uri.isSiteChar c = true) :
    ∀ c ∈ site u, Http.Uri.isSiteChar c = true := by
  have hfront : ∀ c ∈ "http".toList ++ "://".toList, Http.Uri.isSiteChar c = true :=
    List.all_eq_true.1 (by decide)
  have hport : ∀ c ∈ Url.portChars a.port, Http.Uri.isSiteChar c = true := by
    cases a.port with
    | none => simp [Url.portChars]
    | some port =>
      refine List.forall_mem_cons.2 ⟨by decide, fun c hc => ?_⟩
      have hdigit := Text.toNat_of_isDigit (Text.isDigit_of_mem_toDigits port c hc)
      simp only [Http.Uri.isSiteChar, Bool.or_eq_true, Bool.and_eq_true, decide_eq_true_eq]
      omega
  rw [site_eq ha, hscheme]
  exact List.forall_mem_append.2 ⟨hfront, List.forall_mem_append.2 ⟨hhost, hport⟩⟩

end

namespace Compute

/-! ## The path -/

def lookupPath (project zone name : String) : String :=
  s!"compute/v1/projects/{project}/zones/{zone}/instances/{name}"

/-- The parts of the path as they are meant. -/
def lookupParts (project zone name : String) : List (List Char) :=
  ["compute", "v1", "projects", project, "zones", zone, "instances", name].map String.toList

/-- The texts that come out of a lookup as they went in. -/
structure Faithful (project zone name : String) : Prop where
  project_segment : Url.IsSegment project.toList
  zone_segment : Url.IsSegment zone.toList
  name_segment : Url.IsSegment name.toList
  name_visible : Url.EndsVisibly name.toList

/-- The server sees a request for this instance. -/
structure Names (project zone name : String) (r : Http.Request) : Prop where
  path : Url.pieces r.path = [] :: lookupParts project zone name
  unqueried : '?' ∉ r.target.toList

variable (project zone name : String)

theorem toList_lookupPath : (lookupPath project zone name).toList =
    "compute/v1/projects/".toList ++ (project.toList ++ ("/zones/".toList ++ (zone.toList ++
      ("/instances/".toList ++ name.toList)))) := by
  change
    ("compute/v1/projects/" ++ project ++ "/zones/" ++ zone ++ "/instances/" ++ name).toList = _
  rw [String.toList_append, String.toList_append, String.toList_append, String.toList_append,
    String.toList_append, List.append_assoc, List.append_assoc, List.append_assoc,
    List.append_assoc]

theorem chars_lookupParts : '/' :: (lookupPath project zone name).toList =
    (Url.Path.segments (lookupParts project zone name)).chars := by
  have hprojects : "compute/v1/projects/".toList =
      "compute".toList ++ '/' :: ("v1".toList ++ '/' :: ("projects".toList ++ ['/'])) := by decide
  have hzones : "/zones/".toList = '/' :: ("zones".toList ++ ['/']) := by decide
  have hinstances : "/instances/".toList = '/' :: ("instances".toList ++ ['/']) := by decide
  rw [toList_lookupPath, hprojects, hzones, hinstances]
  simp only [lookupParts, List.map_cons, List.map_nil, Url.chars_cons, Url.chars_nil,
    List.append_assoc, List.cons_append, List.nil_append, List.append_nil]

theorem endsVisibly_lookupPath : Url.EndsVisibly (lookupPath project zone name).toList ↔
    Url.EndsVisibly name.toList := by
  have hlast : lookupParts project zone name =
      (lookupParts project zone name).dropLast ++ [name.toList] := rfl
  rw [← Url.endsVisibly_append_cons [], List.nil_append, chars_lookupParts, hlast,
    Url.endsVisibly_chars]

theorem faithful_iff : Faithful project zone name ↔
    Url.EndsVisibly (lookupPath project zone name).toList ∧
      ∀ p ∈ lookupParts project zone name, Url.IsSegment p := by
  rw [endsVisibly_lookupPath]
  constructor
  · rintro ⟨hproject, hzone, hname, hvisible⟩
    have hfixed : ∀ s ∈ ["compute", "v1", "projects", "zones", "instances"],
        Url.IsSegment s.toList := by decide
    refine ⟨hvisible, List.forall_mem_map.2 fun s hs => ?_⟩
    simp only [List.mem_cons, List.not_mem_nil, or_false] at hs
    rcases hs with rfl | rfl | rfl | rfl | rfl | rfl | rfl | rfl
    · exact hfixed _ (by simp)
    · exact hfixed _ (by simp)
    · exact hfixed _ (by simp)
    · exact hproject
    · exact hfixed _ (by simp)
    · exact hzone
    · exact hfixed _ (by simp)
    · exact hname
  · rintro ⟨hvisible, hparts⟩
    exact ⟨hparts _ (by simp [lookupParts]), hparts _ (by simp [lookupParts]),
      hparts _ (by simp [lookupParts]), hvisible⟩

variable {c : Compute} {authority : List Char} (hbase : PlainBase c.base authority)

include hbase

/-- The URL of the lookup at a plain address. -/
structure IsLookup (u : Url) : Prop where
  scheme : u.scheme = "http".toList
  authority : ∃ a, u.authority = some a ∧ a.host.chars ≠ [] ∧
    ∀ c ∈ a.host.chars, Http.Uri.isSiteChar c = true
  path : u.path = .segments (Url.segments true (Url.pathText (lookupPath project zone name).toList))
  query : u.query = (Url.queryText (lookupPath project zone name).toList).map
    (Url.encodeSet (Url.inQuerySet true))

theorem exists_url :
    ∃ u, Url.parse (c.url project zone name) = .ok u ∧ IsLookup project zone name u := by
  obtain ⟨a, ha, hsite⟩ := hbase.readable
  have hhead : (lookupPath project zone name).toList.head? ≠ some '/' := by
    have hfirst : "compute/v1/projects/".toList = 'c' :: "ompute/v1/projects/".toList := by decide
    rw [toList_lookupPath, hfirst, List.cons_append, List.head?_cons]
    decide
  have hurl : c.url project zone name = String.ofList
      ("http://".toList ++ (authority ++ '/' :: (lookupPath project zone name).toList)) :=
    hbase.join hhead
  obtain ⟨fragment, hparse⟩ :=
    Url.parse_http hbase.plain ha (lookupPath project zone name).toList
  rw [← hurl] at hparse
  obtain ⟨host, hhost⟩ := special_of_authority? ha
  refine ⟨_, hparse, ?_, ⟨a, ?_, chars_special_ne_nil hhost, hsite⟩, ?_, ?_⟩
  all_goals dsimp only

theorem names_iff {u : Url} (hu : Url.parse (c.url project zone name) = .ok u)
    {r : Http.Request} (hr : r.target = u.target) :
    Names project zone name r ↔ Faithful project zone name := by
  obtain ⟨u', hu', hlookup⟩ := exists_url project zone name hbase
  obtain rfl : u = u' := Except.ok.inj (hu.symm.trans hu')
  have hsegments := Url.segments_iff (chars_lookupParts project zone name)
  rw [faithful_iff, ← hsegments]
  constructor
  · rintro ⟨hpieces, hunqueried⟩
    rw [Url.path_of_target hu hr, hlookup.path, Url.pieces_segments] at hpieces
    rw [Url.not_mem_target_iff hu hr, hlookup.query, Option.map_eq_none_iff] at hunqueried
    exact ⟨(List.cons.inj hpieces).2, hunqueried⟩
  · rintro ⟨hpieces, hunqueried⟩
    refine ⟨?_, ?_⟩
    · rw [Url.path_of_target hu hr, hlookup.path, Url.pieces_segments, hpieces]
    · rw [Url.not_mem_target_iff hu hr, hlookup.query, hunqueried, Option.map_none]

omit hbase

/-- A URL of a lookup can be sent as long as it is not too long. -/
theorem IsLookup.sendable_iff {u : Url} (h : IsLookup project zone name u)
    {headers : List (String × String)} (hprintable : headers.all (isHeaderText ·.2) = true) :
    Sendable u headers ↔ (Text.encode u.withoutUser.chars).length ≤ Http.Uri.longest := by
  obtain ⟨a, ha, hne, hhost⟩ := h.authority
  have hpath : ∀ c ∈ u.path.chars, Http.Uri.isPathChar c = true := by
    rw [h.path]
    exact fun c hc => Http.Uri.isPathChar_of_mem_segments hc
  have hquery : ∀ q ∈ u.query, ∀ c ∈ q, Http.Uri.isQueryChar c = true := by
    rw [h.query]
    intro q hq
    obtain ⟨text, -, rfl⟩ := Option.map_eq_some_iff.1 hq
    exact fun c hc => Http.Uri.isQueryChar_of_mem_encodeSet hc
  have haddress : Http.Uri.isSendable (site u) u.resource = true ↔
      (Text.encode u.withoutUser.chars).length ≤ Http.Uri.longest := by
    rw [chars_withoutUser ha]
    exact (Http.Uri.isSendable_iff hpath hquery).trans
      (and_iff_left (isSiteChar_of_mem_site ha h.scheme hhost))
  rw [← haddress]
  constructor
  · exact Sendable.address
  · intro hsendable
    refine ⟨?_, hprintable, .inl h.scheme, hsendable⟩
    simp [hasHost, ha, hne]

/-- The URL of the lookup is not too long for a request. -/
def Fits (c : Compute) (project zone name : String) : Prop :=
  ∃ u, Url.parse (c.url project zone name) = .ok u ∧
    (Text.encode u.withoutUser.chars).length ≤ Http.Uri.longest

theorem fits_iff {c : Compute} {u : Url} (hu : Url.parse (c.url project zone name) = .ok u) :
    c.Fits project zone name ↔ (Text.encode u.withoutUser.chars).length ≤ Http.Uri.longest := by
  constructor
  · rintro ⟨u', hu', hlength⟩
    rwa [Except.ok.inj (hu.symm.trans hu')]
  · exact fun hlength => ⟨u, hu, hlength⟩

instance (c : Compute) : Decidable (c.Fits project zone name) :=
  match h : Url.parse (c.url project zone name) with
  | .ok _ => decidable_of_iff _ (fits_iff project zone name h).symm
  | .error _ => .isFalse fun ⟨_, hu, _⟩ => nomatch h.symm.trans hu

/-! ## Runs -/

/-- Some run of the lookup sends the request, and not to a metadata server. -/
def Sends (c : Compute) (project zone name : String) (r : Http.Request) : Prop :=
  ∃ (σ : Type) (reply : (r : Http.port.Call) → σ → Http.port.Reply r × σ) (s : σ),
    r ∈ ((c.instanceId project zone name).run reply s).calls ∧ isMetadata r = false

variable {σ : Type} {reply : (r : Http.port.Call) → σ → Http.port.Reply r × σ} {s t : σ} {u : Url}
  {token : String} {log : List (Exchange Http.port)}

theorem instanceId_sent (hu : Url.parse (c.url project zone name) = .ok u) {r : Http.Request}
    (ht : Returns reply c.tokens.token s (.ok token) t log)
    (hr : prepare endpoint u [bearer token] = .ok r) :
    Returns reply (c.instanceId project zone name) s
      (received endpoint u (reply r t).1 >>= jsonBody readId endpoint) (reply r t).2
      (log ++ [⟨r, (reply r t).1⟩]) := by
  refine Returns.tell_bind (ht.bind ?_) _
  have hfetch : fetchText endpoint (c.url project zone name) [bearer token] =
      fetch endpoint u [bearer token] := by rw [fetchText, hu]
  dsimp only
  rw [hfetch]
  exact (fetch_sent hr t).bind_silent (.done _ _)

theorem instanceId_unsent (hu : Url.parse (c.url project zone name) = .ok u) {fault : SourceFault}
    (ht : Returns reply c.tokens.token s (.ok token) t log)
    (hr : prepare endpoint u [bearer token] = .error fault) :
    Returns reply (c.instanceId project zone name) s (.error fault) t log := by
  refine Returns.tell_bind (ht.bind_silent ?_) _
  have hfetch : fetchText endpoint (c.url project zone name) [bearer token] =
      fetch endpoint u [bearer token] := by rw [fetchText, hu]
  dsimp only
  rw [hfetch]
  exact (fetch_refused hr t).bind_silent (.done _ _)

/-- Beside the request for a token a run makes at most one, and it gets the instance. -/
theorem calls_instanceId (reply : (r : Http.port.Call) → σ → Http.port.Reply r × σ) (s : σ)
    (hu : Url.parse (c.url project zone name) = .ok u) :
    ∃ tokenCalls : List Http.Request, (∀ r ∈ tokenCalls, isMetadata r = true) ∧
      (((c.instanceId project zone name).run reply s).calls = tokenCalls ∨
        ∃ token r, prepare endpoint u [bearer token] = .ok r ∧
          ((c.instanceId project zone name).run reply s).calls = tokenCalls ++ [r]) := by
  obtain ⟨v, t, log, ht, hlog⟩ := token_returns reply c.tokens s
  refine ⟨log.map Sigma.fst, List.forall_mem_map.2 hlog, ?_⟩
  cases v with
  | error fault =>
    have h : Returns reply (c.instanceId project zone name) s (.error fault) t log := by
      refine Returns.tell_bind (ht.bind_silent ?_) _
      exact .done _ _
    exact .inl h.calls
  | ok token =>
    cases hr : prepare endpoint u [bearer token] with
    | error fault => exact .inl (instanceId_unsent project zone name hu ht hr).calls
    | ok r =>
      exact .inr ⟨token, r, hr, (instanceId_sent project zone name hu ht hr).calls.trans
        List.map_append⟩

theorem Sends.target (hu : Url.parse (c.url project zone name) = .ok u) {r : Http.Request}
    (h : c.Sends project zone name r) : r.method = .get ∧ r.target = u.target := by
  obtain ⟨σ, reply, s, hr, hmetadata⟩ := h
  obtain ⟨tokenCalls, htokens, hcalls | ⟨token, r', hr', hcalls⟩⟩ :=
    calls_instanceId project zone name reply s hu
  · rw [hcalls] at hr
    exact absurd (htokens r hr) (by rw [hmetadata]; exact Bool.false_ne_true)
  · rw [hcalls] at hr
    obtain rfl : r = r' := List.mem_singleton.1 <| (List.mem_append.1 hr).resolve_left fun hr =>
      absurd (htokens r hr) (by rw [hmetadata]; exact Bool.false_ne_true)
    exact ⟨(gets_of_prepare hr').method, (prepare_eq_ok hr').1⟩

/-- A granted token that can stand in a header is followed by one request for the instance, or by
none if the URL is too long for that. -/
theorem requests_of_granted {authority : List Char} (hbase : PlainBase c.base authority)
    (reply : (r : Http.port.Call) → σ → Http.port.Reply r × σ) (s : σ)
    (htoken : (c.tokens.token.run reply s).value = .ok (.ok token))
    (hprintable : isHeaderText (bearer token).2 = true) :
    let requests := ((c.instanceId project zone name).run reply s).calls.filter (! isMetadata ·)
    (c.Fits project zone name → ∃ r, requests = [r]) ∧
      (¬ c.Fits project zone name → requests = []) := by
  obtain ⟨u, hu, hlookup⟩ := exists_url project zone name hbase
  obtain ⟨v, t, log, ht, hlog⟩ := token_returns reply c.tokens s
  obtain rfl : v = .ok token := Except.ok.inj (ht.value.symm.trans htoken)
  have hheaders : [bearer token].all (isHeaderText ·.2) = true := by simp [hprintable]
  have hsendable := hlookup.sendable_iff project zone name hheaders
  have htokens : (log.map Sigma.fst : List Http.Request).filter (! isMetadata ·) = [] := by
    refine List.filter_eq_nil_iff.2 (List.forall_mem_map.2 fun e he => ?_)
    simp [hlog e he]
  rw [fits_iff project zone name hu, ← hsendable]
  constructor
  · intro hsend
    obtain ⟨r, hr⟩ : ∃ r, prepare endpoint u [bearer token] = .ok r :=
      ⟨_, prepare_eq_ok_iff.2 ⟨hsend, rfl⟩⟩
    have hmetadata : isMetadata r = false := isMetadata_prepare hr
    have hcalls : ((c.instanceId project zone name).run reply s).calls =
        (log.map Sigma.fst : List Http.Request) ++ [r] :=
      (instanceId_sent project zone name hu ht hr).calls.trans List.map_append
    exact ⟨r, by rw [hcalls, List.filter_append, htokens]; simp [hmetadata]⟩
  · intro hunsent
    cases hr : prepare endpoint u [bearer token] with
    | ok r => exact absurd (prepare_eq_ok_iff.1 hr).1 hunsent
    | error fault =>
      have hcalls : ((c.instanceId project zone name).run reply s).calls =
          (log.map Sigma.fst : List Http.Request) :=
        (instanceId_unsent project zone name hu ht hr).calls
      rw [hcalls, htokens]

theorem sends_of_sent
    (h : ∃ r, ((c.instanceId project zone name).run reply s).calls.filter (! isMetadata ·) = [r]) :
    ∃ r, c.Sends project zone name r := by
  obtain ⟨r, hr⟩ := h
  have hmem : r ∈ [r] := List.mem_singleton_self r
  rw [← hr] at hmem
  obtain ⟨hcall, hmetadata⟩ := List.mem_filter.1 hmem
  exact ⟨r, σ, reply, s, hcall, by simpa using hmetadata⟩

/-! ## A client at a plain address -/

/-- A client of a server at a plain address, with a token of its own. -/
def plainCompute : Compute := { base := "http://compute:8080", tokens := .fixed "t" }

theorem plainBase_plainCompute : PlainBase plainCompute.base "compute:8080".toList where
  text := by decide
  plain := List.all_eq_true.1 (by decide)
  readable := ⟨{ host := .name "compute".toList, port := some 8080 },
    eq_ok_of_toOption (by decide +kernel), List.all_eq_true.1 (by decide)⟩

/-! ## What is asked for -/

theorem lookupParts_inj {project' zone' name' : String}
    (h : lookupParts project zone name = lookupParts project' zone' name') :
    project = project' ∧ zone = zone' ∧ name = name' := by
  simpa [lookupParts, String.toList_inj] using h

/-- With a plain address as its base, a lookup whose token can stand in a header asks for one thing,
unless its URL is too long for a request and it asks for nothing. The server takes what is asked for
for the instance that was meant exactly if project, zone and name hold no marks, breaks or escapes,
none of them is a dot segment and the name ends visibly; and where this is so, two lookups ask for
the same only if they are for the same instance. -/
theorem instanceId_asks_exactly {authority : List Char} (hbase : PlainBase c.base authority) :
    (∀ {σ : Type} (reply : (r : Http.port.Call) → σ → Http.port.Reply r × σ) (s : σ)
        (token project zone name : String), (c.tokens.token.run reply s).value = .ok (.ok token) →
      isHeaderText (bearer token).2 = true →
      let requests := ((c.instanceId project zone name).run reply s).calls.filter (! isMetadata ·)
      (c.Fits project zone name → ∃ r, requests = [r]) ∧
        (¬ c.Fits project zone name → requests = [])) ∧
    (∀ project zone name r, c.Sends project zone name r →
      r.method = .get ∧ (Names project zone name r ↔ Faithful project zone name)) ∧
    ∀ project zone name project' zone' name' r r', c.Sends project zone name r →
      c.Sends project' zone' name' r' → Faithful project zone name →
      Faithful project' zone' name' → r.target = r'.target →
      project = project' ∧ zone = zone' ∧ name = name' := by
  refine ⟨fun reply s token project zone name =>
      requests_of_granted project zone name hbase reply s,
    fun project zone name r hr => ?_,
    fun project zone name project' zone' name' r r' hr hr' hf hf' heq => ?_⟩
  · obtain ⟨u, hu, -⟩ := exists_url project zone name hbase
    obtain ⟨hmethod, htarget⟩ := hr.target project zone name hu
    exact ⟨hmethod, names_iff project zone name hbase hu htarget⟩
  · obtain ⟨u, hu, -⟩ := exists_url project zone name hbase
    obtain ⟨u', hu', -⟩ := exists_url project' zone' name' hbase
    have hnames := (names_iff project zone name hbase hu (hr.target project zone name hu).2).2 hf
    have hnames' :=
      (names_iff project' zone' name' hbase hu' (hr'.target project' zone' name' hu').2).2 hf'
    have hpath := hnames.path
    rw [Http.Request.path, heq, ← Http.Request.path, hnames'.path] at hpath
    obtain ⟨hp, hz, hn⟩ := lookupParts_inj _ _ _ (List.cons.inj hpath).2
    exact ⟨hp.symm, hz.symm, hn.symm⟩

theorem plainCompute_asks_exactly : PlainBase plainCompute.base "compute:8080".toList ∧
    ∃ r r', plainCompute.Sends "p" "z" "gpu-1" r ∧ plainCompute.Sends "p" "z" "gpu-2" r' ∧
      Names "p" "z" "gpu-1" r ∧ Names "p" "z" "gpu-2" r' ∧ r.target ≠ r'.target := by
  have hfirst : Faithful "p" "z" "gpu-1" := ⟨by decide, by decide, by decide, by decide⟩
  have hsecond : Faithful "p" "z" "gpu-2" := ⟨by decide, by decide, by decide, by decide⟩
  obtain ⟨hsent, hnames, hdistinct⟩ := instanceId_asks_exactly plainBase_plainCompute
  have hsends (name : String) (hfits : plainCompute.Fits "p" "z" name) :
      ∃ r, plainCompute.Sends "p" "z" name r :=
    sends_of_sent _ _ _ ((hsent (fun _ (_ : Unit) => (.lost [], ())) () "t" "p" "z" name rfl
      (by decide)).1 hfits)
  obtain ⟨r, hr⟩ := hsends "gpu-1" (by decide +kernel)
  obtain ⟨r', hr'⟩ := hsends "gpu-2" (by decide +kernel)
  refine ⟨plainBase_plainCompute, r, r', hr, hr', (hnames _ _ _ r hr).2.2 hfirst,
    (hnames _ _ _ r' hr').2.2 hsecond, fun heq => ?_⟩
  obtain ⟨-, -, hname⟩ := hdistinct _ _ _ _ _ _ r r' hr hr' hfirst hsecond heq
  exact absurd hname (by decide)

/-- A name with a number sign in it is cut there: what is sent for it is what is sent for the
shorter name, and does not name the instance. -/
theorem lookups_confused : PlainBase plainCompute.base "compute:8080".toList ∧
    '/' ∉ "gpu#1".toList ∧ ∃ r r', plainCompute.Sends "p" "z" "gpu#1" r ∧
      plainCompute.Sends "p" "z" "gpu" r' ∧ r.target = r'.target ∧
      ¬ Names "p" "z" "gpu#1" r := by
  have hbase := plainBase_plainCompute
  have hsends (name : String) (hfits : plainCompute.Fits "p" "z" name) :
      ∃ r, plainCompute.Sends "p" "z" name r :=
    sends_of_sent _ _ _ ((requests_of_granted "p" "z" name hbase
      (fun _ (_ : Unit) => (.lost [], ())) () rfl (by decide)).1 hfits)
  obtain ⟨r, hr⟩ := hsends "gpu#1" (by decide +kernel)
  obtain ⟨r', hr'⟩ := hsends "gpu" (by decide +kernel)
  obtain ⟨u, hu, hlookup⟩ := exists_url "p" "z" "gpu#1" hbase
  obtain ⟨u', hu', hlookup'⟩ := exists_url "p" "z" "gpu" hbase
  have hcut : Url.pathText (lookupPath "p" "z" "gpu#1").toList =
      Url.pathText (lookupPath "p" "z" "gpu").toList := by decide +kernel
  have hnone : Url.queryText (lookupPath "p" "z" "gpu#1").toList =
      Url.queryText (lookupPath "p" "z" "gpu").toList := by decide +kernel
  refine ⟨hbase, by decide, r, r', hr, hr', ?_, ?_⟩
  · rw [(hr.target "p" "z" "gpu#1" hu).2, (hr'.target "p" "z" "gpu" hu').2, Url.target, Url.target,
      hlookup.path, hlookup'.path, hlookup.query, hlookup'.query, hcut, hnone]
  · rw [names_iff "p" "z" "gpu#1" hbase hu (hr.target "p" "z" "gpu#1" hu).2]
    exact fun h => absurd h.name_segment (by decide)

end Compute

end NodeLabels.Cloud
