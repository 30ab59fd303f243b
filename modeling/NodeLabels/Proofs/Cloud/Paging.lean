import Mathlib.Data.Finset.Card
import Mathlib.Data.Finset.Dedup
import Mathlib.Data.List.Chain
import NodeLabels.Proofs.Cloud.Course
import NodeLabels.Proofs.Cloud.Serves
/-!
# Paging comes to an end

A server may answer as it likes, by all that it was asked before. As long as the pages that it can
name are finite in number, a query ends, and it asks for no page twice: every page that it goes on
to was named for the first time, which leaves one page less to go on to.
-/

namespace NodeLabels.Cloud.Monitoring

open Dialogue (Exchange Returns)

/-- The exchanges in which pages were asked for, those for access tokens left out. -/
def pageExchanges (log : List (Exchange Http.port)) : List (Exchange Http.port) :=
  log.filter fun e => ! isMetadata e.1

variable (m : Monitoring) (project : String) {σ : Type}
  (reply : (r : Http.port.Call) → σ → Http.port.Reply r × σ)

/-- The reply in `e` holds a page that names `token`, and `e'` asks for the page of that token. -/
def LeadsTo (e e' : Exchange Http.port) : Prop :=
  ∃ p token, pageIn e.2 = some p ∧ p.next? = some token ∧ pageToken? m project e'.1 = some token

/-- Whatever page a reply holds, the token that it names is one of `names`. -/
def NamesAmong (names : Finset String) : Prop :=
  ∀ (r : Http.Request) (s : σ) (p : Page), isMetadata r = false →
    pageIn (reply r s).1 = some p → ∀ token ∈ p.next?, token ∈ names

/-- The pages of `tokens` were asked for one after the other, behind `page`. -/
structure Paged (names : Finset String) (page : Option String) (seen : List String)
    (tokens : List String) (asked : List (Exchange Http.port)) : Prop where
  asks : asked.map (fun e => pageToken? m project e.1) = page :: tokens.map some
  linked : asked.IsChain (LeadsTo m project)
  fresh : tokens.Nodup
  unseen : ∀ token ∈ tokens, token ∉ seen
  named : ∀ token ∈ tokens, token ≠ "" ∧ token ∈ names

variable {m project reply} {instanceId : String} {window : Window} {names : Finset String}
  {page : Option String} {seen : List String} {found : List Series} {s t : σ}
  {asked : List (Option String)} {v : Except SourceFault (List Series)}
  {log : List (Exchange Http.port)}

theorem pageExchanges_of_metadata (h : ∀ e ∈ log, isMetadata e.1 = true) :
    pageExchanges log = [] := by
  simpa [pageExchanges] using h

/-- The names of the pages that were followed are different and among `names`. -/
structure Seen (names : Finset String) (seen : List String) : Prop where
  fresh : seen.Nodup
  named : ∀ token ∈ seen, token ∈ names

theorem Seen.length_le (h : Seen names seen) : seen.length ≤ names.card := by
  have hcard := Finset.card_le_card fun u hu => h.named u (List.mem_toFinset.1 hu)
  rwa [List.toFinset_card_of_nodup h.fresh] at hcard

theorem Seen.nil : Seen names [] := ⟨.nil, by simp⟩

theorem Seen.cons {token : String} (h : Seen names seen) (hunseen : token ∉ seen)
    (hname : token ∈ names) : Seen names (token :: seen) where
  fresh := List.nodup_cons.2 ⟨hunseen, h.fresh⟩
  named := List.forall_mem_cons.2 ⟨hname, h.named⟩

theorem PageLog.exchanges {v : Except SourceFault Page}
    (h : PageLog m project instanceId window page reply v log) :
    (∃ fault, v = .error fault ∧ pageExchanges log = []) ∨
      ∃ r u, pageExchanges log = [⟨r, (reply r u).1⟩] ∧ isMetadata r = false ∧
        pageToken? m project r = page ∧
        v.toOption = pageIn (reply r u).1 := by
  cases h with
  | unsent hlog => exact Or.inl ⟨_, rfl, pageExchanges_of_metadata hlog⟩
  | @sent v log base r u hlog hr hbase htarget _ hv =>
    refine Or.inr ⟨r, u, ?_, hr, ?_, hv⟩
    · have hnone := pageExchanges_of_metadata hlog
      rw [pageExchanges] at hnone ⊢
      rw [List.filter_append, hnone]
      simp [hr]
    · exact pageToken?_of_target m project instanceId window page hbase htarget

theorem NamesAmong.of_returns (hnames : NamesAmong reply names) {p : Page} {token : String}
    (h : Returns reply (m.fetchPage project instanceId window page) s (.ok p) t log)
    (hnext : p.next? = some token) : token ∈ names := by
  rcases (pageLog_of_returns _ _ _ _ _ h).exchanges with ⟨fault, hv, -⟩ | ⟨r, u, -, hr, -, hp⟩
  · cases hv
  · exact hnames r u p hr hp.symm token hnext

/-! ## What a course asks for -/

theorem Paged.singleton {e : Exchange Http.port}
    (h : pageToken? m project e.1 = page) :
    Paged m project names page seen [] [e] where
  asks := congrArg (fun p => [p]) h
  linked := .singleton e
  fresh := .nil
  unseen := by simp
  named := by simp

theorem Paged.cons {e : Exchange Http.port} {p : Page} {token : String} {tokens : List String}
    {asked : List (Exchange Http.port)}
    (h : Paged m project names (some token) (token :: seen) tokens asked)
    (he : pageToken? m project e.1 = page)
    (hp : pageIn e.2 = some p) (hnext : p.next? = some token) (hunseen : token ∉ seen)
    (hname : token ∈ names) :
    Paged m project names page seen (token :: tokens) (e :: asked) where
  asks := by rw [List.map_cons, h.asks, he]; rfl
  linked := by
    obtain ⟨e', rest, rfl, he', -⟩ := List.map_eq_cons_iff.1 h.asks
    exact .cons_cons ⟨p, token, hp, hnext, he'⟩ h.linked
  fresh := List.nodup_cons.2 ⟨fun hm => h.unseen token hm (by simp), h.fresh⟩
  unseen := List.forall_mem_cons.2
    ⟨hunseen, fun u hu hs => h.unseen u hu (List.mem_cons_of_mem token hs)⟩
  named := by
    have hne : token ≠ "" := by
      have := (Option.filter_eq_some_iff.1 hnext).2
      simpa using this
    exact List.forall_mem_cons.2 ⟨⟨hne, hname⟩, h.named⟩

/-- The pages asked for are the first one and one for each token. -/
theorem Paged.length_le {tokens : List String} {asked : List (Exchange Http.port)}
    (h : Paged m project names page seen tokens asked) :
    asked.length ≤ names.card + 1 := by
  have hlength := congrArg List.length h.asks
  have hcard := Finset.card_le_card fun u hu => (h.named u (List.mem_toFinset.1 hu)).2
  rw [List.toFinset_card_of_nodup h.fresh] at hcard
  simp only [List.length_map, List.length_cons] at hlength
  omega

theorem Course.paged (hnames : NamesAmong reply names)
    (h : Course m project instanceId window reply page seen found s asked v t log) :
    pageExchanges log = [] ∨ ∃ tokens,
      Paged m project names page seen tokens (pageExchanges log) := by
  induction h with
  | failed h =>
    rcases (pageLog_of_returns _ _ _ _ _ h).exchanges with ⟨-, -, hnone⟩ | ⟨r, u, hlog, -, hr, -⟩
    · exact Or.inl hnone
    · exact Or.inr ⟨[], hlog ▸ .singleton hr⟩
  | last h hlast =>
    rcases (pageLog_of_returns _ _ _ _ _ h).exchanges with ⟨-, -, hnone⟩ | ⟨r, u, hlog, -, hr, -⟩
    · exact Or.inl hnone
    · exact Or.inr ⟨[], hlog ▸ .singleton hr⟩
  | @next page seen found s t u p token asked v log rest h hfollow _ ih =>
    obtain ⟨-, hnext, hunseen⟩ := following_eq_some.1 hfollow
    rcases (pageLog_of_returns _ _ _ _ _ h).exchanges with
      ⟨fault, hv, -⟩ | ⟨r, u, hlog, -, hr, hp⟩
    · cases hv
    have hname := hnames.of_returns h hnext
    have happend : pageExchanges (log ++ rest) = ⟨r, (reply r u).1⟩ :: pageExchanges rest := by
      rw [pageExchanges, List.filter_append]
      exact congrArg (· ++ pageExchanges rest) hlog
    rw [happend]
    rcases ih with hnone | ⟨tokens, hpaged⟩
    · rw [hnone]
      exact Or.inr ⟨[], .singleton hr⟩
    · exact Or.inr ⟨token :: tokens, hpaged.cons hr hp.symm hnext hunseen hname⟩

/-! ## The end of the paging -/

/-- What holds of the pages that were followed, whatever page comes next, keeps them below the
bound. -/
structure Bounded (m : Monitoring) (project instanceId : String) (window : Window)
    (reply : (r : Http.port.Call) → σ → Http.port.Reply r × σ) (bound : ℕ)
    (inv : Option String → List String → Prop) : Prop where
  length_le {page : Option String} {seen : List String} (h : inv page seen) : seen.length ≤ bound
  step {page : Option String} {seen : List String} {s t : σ} {p : Page} {token : String}
    {log : List (Exchange Http.port)} (h : inv page seen)
    (hfetch : Returns reply (m.fetchPage project instanceId window page) s (.ok p) t log)
    (hnext : p.next? = some token) (hunseen : token ∉ seen) : inv (some token) (token :: seen)

/-- Every page that is followed is a new one, so what bounds their number bounds the course. -/
theorem exists_course {bound : ℕ} {inv : Option String → List String → Prop}
    (hbounded : Bounded m project instanceId window reply bound inv) (page : Option String)
    (found : List Series) (s : σ) (h : inv page seen) :
    ∃ asked v t log, seen.length + asked.length ≤ bound + 1 ∧
      Course m project instanceId window reply page seen found s asked v t log := by
  have hle := hbounded.length_le h
  induction hn : bound - seen.length using Nat.strongRecOn generalizing page seen found s with
  | ind n ih =>
    obtain ⟨result, t, log, hfetch, -⟩ :=
      fetchPage_returns m project instanceId window page reply s
    cases result with
    | error fault => exact ⟨[page], _, _, _, Nat.add_le_add_right hle 1, .failed hfetch⟩
    | ok p =>
      cases hfollow : following seen found p with
      | none => exact ⟨[page], _, _, _, Nat.add_le_add_right hle 1, .last hfetch hfollow⟩
      | some token =>
        obtain ⟨-, hnext, hunseen⟩ := following_eq_some.1 hfollow
        have honward := hbounded.step h hfetch hnext hunseen
        have hlt := hbounded.length_le honward
        rw [List.length_cons] at hlt
        obtain ⟨asked, v, u, rest, hlength, onward⟩ := ih (bound - (seen.length + 1)) (by omega)
          (some token) (found ++ p.series) t honward hlt rfl
        rw [List.length_cons] at hlength
        refine ⟨page :: asked, v, u, log ++ rest, ?_, .next hfetch hfollow onward⟩
        rw [List.length_cons]
        omega

theorem NamesAmong.bounded (m : Monitoring) (project instanceId : String) (window : Window)
    (hnames : NamesAmong reply names) :
    Bounded m project instanceId window reply names.card fun _ => Seen names where
  length_le := Seen.length_le
  step h hfetch hnext hunseen := h.cons hunseen (hnames.of_returns hfetch hnext)

/-- A query has a result if its patience is above the bound. -/
theorem Bounded.exists_value {bound : ℕ} {inv : Option String → List String → Prop}
    (hbounded : Bounded m project instanceId window reply bound inv) (h : inv none [])
    {patience : ℕ} (hpatience : bound < patience) (s : σ) :
    ∃ v, ((m.predictionSeries patience project instanceId window).run reply s).value = .ok v := by
  obtain ⟨asked, v, t, log, hlength, hcourse⟩ := exists_course hbounded none [] s h
  rw [List.length_nil, Nat.zero_add] at hlength
  exact ⟨v, (hcourse.predictionSeries_returns (by omega)).value⟩

/-- If only `names` can be named as next pages, a query ends, whatever its patience, after asking
for at most one page more than there are names. The first request is for no page by name, and every
later one is for the page that the reply before it named, never for the same page twice. -/
theorem predictionSeries_terminates (m : Monitoring) (project instanceId : String)
    (window : Window) {σ : Type} (reply : (r : Http.port.Call) → σ → Http.port.Reply r × σ) (s : σ)
    (names : Finset String) (hnames : NamesAmong reply names) :
    ∃ v log,
      (∀ patience, names.card < patience →
        ((m.predictionSeries patience project instanceId window).run reply s).value = .ok v ∧
        (m.predictionSeries patience project instanceId window).exchanges reply s = log) ∧
      (pageExchanges log).length ≤ names.card + 1 ∧
      (pageExchanges log = [] ∨ ∃ tokens : List String,
        (pageExchanges log).map (fun e => pageToken? m project e.1) = none :: tokens.map some ∧
        tokens.Nodup ∧ (∀ token ∈ tokens, token ≠ "" ∧ token ∈ names) ∧
        (pageExchanges log).IsChain (LeadsTo m project)) := by
  obtain ⟨asked, v, t, log, hlength, hcourse⟩ :=
    exists_course (hnames.bounded m project instanceId window) none [] s .nil
  have hends : ∀ patience, names.card < patience →
      Returns reply (m.predictionSeries patience project instanceId window) s v t log := by
    intro patience hp
    rw [List.length_nil, Nat.zero_add] at hlength
    exact hcourse.predictionSeries_returns (by omega)
  refine ⟨v, log, fun patience hp => ⟨(hends patience hp).value, (hends patience hp).exchanges⟩,
    ?_, ?_⟩
  · rcases hcourse.paged hnames with hnone | ⟨tokens, h⟩
    · simp [hnone]
    · exact h.length_le
  · rcases hcourse.paged hnames with hnone | ⟨tokens, h⟩
    · exact Or.inl hnone
    · exact Or.inr ⟨tokens, h.asks, h.fresh, h.named, h.linked⟩

/-- Pages that name `a` and `b` in turn, whatever is asked. -/
def alternating (r : Http.port.Call) (n : Nat) : Http.port.Reply r × Nat :=
  (if n % 2 = 0 then document "\x7b\"nextPageToken\":\"a\"\x7d"
    else document "\x7b\"nextPageToken\":\"b\"\x7d", n + 1)

theorem alternating_names : NamesAmong alternating {"a", "b"} := by
  intro r n p _ hp token htoken
  have ha : pageIn (document "\x7b\"nextPageToken\":\"a\"\x7d") =
      some { series := [], next := some "a" } := by decide +kernel
  have hb : pageIn (document "\x7b\"nextPageToken\":\"b\"\x7d") =
      some { series := [], next := some "b" } := by decide +kernel
  change pageIn (if n % 2 = 0 then _ else _) = some p at hp
  split at hp
  · cases ha.symm.trans hp
    simp_all [Page.next?]
  · cases hb.symm.trans hp
    simp_all [Page.next?]

/-- Three requests are enough for two names. -/
theorem predictionSeries_alternating : NamesAmong alternating {"a", "b"} ∧ ∃ v log,
    (∀ patience, 2 < patience →
      ((plainClient.predictionSeries patience plainProject "1" quarter).run alternating 0).value =
        .ok v ∧
      (plainClient.predictionSeries patience plainProject "1" quarter).exchanges alternating 0 =
        log) ∧
    (pageExchanges log).length ≤ 3 ∧
    (pageExchanges log = [] ∨ ∃ tokens : List String,
      (pageExchanges log).map (fun e => pageToken? plainClient plainProject e.1) =
        none :: tokens.map some ∧
      tokens.Nodup ∧ (∀ token ∈ tokens, token ≠ "" ∧ token ∈ ({"a", "b"} : Finset String)) ∧
      (pageExchanges log).IsChain (LeadsTo plainClient plainProject)) :=
  ⟨alternating_names,
    predictionSeries_terminates plainClient plainProject "1" quarter alternating 0 {"a", "b"}
      alternating_names⟩

end NodeLabels.Cloud.Monitoring
