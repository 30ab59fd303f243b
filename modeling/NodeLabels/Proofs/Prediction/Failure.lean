import NodeLabels.Proofs.Cloud.Failure
import NodeLabels.Proofs.Prediction.Blocks
/-!
# Nodes whose predictions fail between the pages

A query is all or nothing: whatever it has found by the page that fails, the node behind it has no
status and nothing is written to it.
-/

namespace NodeLabels.Prediction

open Calendar (Instant)
open Cloud (Monitoring)
open Cloud.Monitoring (PageFails QuietPages)
open Dialogue (Exchange Returns)
open Machine (sendsPatch)

/-- The work on a node comes to a query for the instance `id` in a window, after these exchanges:
the instance was looked up and the clock was read. -/
inductive ComesToQuery {σ : Type} (reply : (c : Machine.port.Call) → σ → Machine.port.Reply c × σ)
    (services : Services) (settings : Settings) (patience : Nat) (node : Node) (s : σ) :
    (id : String) → Window → σ → List (Exchange Machine.port) → Prop
  | found {zone name id : String} {t u : σ} {stop : Instant} {window : Window}
      {looked : List (Exchange Machine.port)} (hlocates : Locates node zone name)
      (hlookup : Returns reply (services.answer patience (.instanceId settings.project zone name))
        s (.ok (some id)) t looked)
      (hclock : reply Machine.Call.now t = (stop, u))
      (hwindow : Window.endingAt? stop settings.window = some window) :
      ComesToQuery reply services settings patience node s id window u (looked ++ [⟨.now, stop⟩])

section

variable {σ : Type} {reply : (c : Machine.port.Call) → σ → Machine.port.Reply c × σ}
  {services : Services} {settings : Settings} {patience : Nat} {node : Node} {id : String}
  {window : Window} {s u w : σ} {fault : SourceFault} {before : List (Exchange Machine.port)}
  {log : List (Exchange Http.port)}

/-- The step from the clock on. -/
theorem labelInstance_of_failed_query (node : Node) {stop : Instant} {t : σ}
    (hclock : reply Machine.Call.now t = (stop, u))
    (hwindow : Window.endingAt? stop settings.window = some window)
    (hquery : Returns (Http.server reply services.limit)
      (services.monitoring.predictionSeries patience settings.project id window) u (.error fault) w
      log) :
    Returns reply ((labelInstance settings node id).translate (services.answer patience)) t
      .noStatus w (⟨.now, stop⟩ :: log.map (Http.sending services.limit)) := by
  have hnow : Returns reply (services.answer patience .now) t stop u [⟨.now, stop⟩] :=
    Returns.ask (P := Machine.port) hclock
  have hseries : Returns reply (services.answer patience (.series settings.project id window)) u
      (.error fault) w (log.map (Http.sending services.limit)) := Http.exchange_returns hquery
  have hnothing : Returns reply (.done Outcome.noStatus) w .noStatus w [] := .done _ _
  unfold labelInstance
  refine Returns.translate_ask_bind (P := Machine.port) (Q := port) (c := Call.now) hnow ?_
  rw [hwindow, ← List.append_nil (log.map _)]
  exact Returns.translate_ask_bind (P := Machine.port) (Q := port)
    (c := Call.series settings.project id window) hseries (hnothing.report _)

theorem ComesToQuery.labelNode_failed
    (h : ComesToQuery reply services settings patience node s id window u before)
    (hquery : Returns (Http.server reply services.limit)
      (services.monitoring.predictionSeries patience settings.project id window) u (.error fault) w
      log) :
    Returns reply ((labelNode settings node).translate (services.answer patience)) s .noStatus w
      (before ++ log.map (Http.sending services.limit)) := by
  obtain ⟨hlocates, hlookup, hclock, hwindow⟩ := h
  unfold labelNode
  rw [hlocates.1, zone?_eq_some.2 hlocates.2, List.append_assoc]
  have hinstance := labelInstance_of_failed_query node hclock hwindow hquery
  exact (Returns.translate_ask_bind (P := Machine.port) (Q := port)
    (c := Call.instanceId settings.project _ _) hlookup hinstance).report _

/-- Neither a lookup nor a query writes anything. -/
theorem ComesToQuery.patchless
    (h : ComesToQuery reply services settings patience node s id window u before)
    (hquery : Returns (Http.server reply services.limit)
      (services.monitoring.predictionSeries patience settings.project id window) u (.error fault) w
      log) :
    ∀ x ∈ before ++ log.map (Http.sending services.limit), sendsPatch x.1 = false := by
  have hread {α : Type} {d : Dialogue Machine.port α} (hd : Machine.Patchless d) {a : α} {s t : σ}
      {log : List (Exchange Machine.port)} (h : Returns reply d s a t log) :
      ∀ x ∈ log, sendsPatch x.1 = false := by
    have hcalls := hd.calls_run reply s
    rw [h.calls] at hcalls
    exact List.forall_mem_map.1 hcalls
  obtain ⟨hlocates, hlookup, hclock, hwindow⟩ := h
  have hlooked := hread (Machine.exchange_patchless
    (Cloud.Compute.instanceId_onlyGets services.compute settings.project _ _) _) hlookup
  have hqueried := hread (Machine.exchange_patchless
    (Monitoring.predictionSeries_onlyGets services.monitoring settings.project id window patience)
    _) (Http.exchange_returns hquery)
  refine List.forall_mem_append.2 ⟨List.forall_mem_append.2 ⟨hlooked, ?_⟩, hqueried⟩
  exact List.forall_mem_singleton.2 rfl

end

/-- A failure at any page discards all pages. A query returns a fault if and only if it has come
over quiet pages to one that fails with this fault, or if its URL cannot be built: it sends nothing
behind that page and returns none of the series before it. The node has no status then, and nothing
is written to it. -/
theorem failed_page_discards_all :
    (∀ (m : Monitoring) (project id : String) (window : Window) {σ : Type}
      (reply : (r : Http.port.Call) → σ → Http.port.Reply r × σ) (patience : Nat) (s w : σ)
      (fault : SourceFault) (log : List (Exchange Http.port)),
      Returns reply (m.predictionSeries patience project id window) s (.error fault) w log ↔
        (∃ pages page seen t log₁ log₂, pages.length < patience ∧ log = log₁ ++ log₂ ∧
          QuietPages m project id window reply none [] s pages page seen t log₁ ∧
          PageFails m project id window reply page t fault w log₂) ∨
        (0 < patience ∧ m.url project id window none = .error fault ∧ w = s ∧ log = [])) ∧
    (∀ {σ : Type} (reply : (c : Machine.port.Call) → σ → Machine.port.Reply c × σ)
      (services : Services) (settings : Settings) (patience : Nat) (node : Node) (id : String)
      (window : Window) (s u t w : σ) (before : List (Exchange Machine.port))
      (pages : List Monitoring.Page) (page : Option String) (seen : List String)
      (fault : SourceFault) (log₁ log₂ : List (Exchange Http.port)),
      ComesToQuery reply services settings patience node s id window u before →
      pages.length < patience →
      QuietPages services.monitoring settings.project id window
        (Http.server reply services.limit) none [] u pages page seen t log₁ →
      PageFails services.monitoring settings.project id window
        (Http.server reply services.limit) page t fault w log₂ →
      Returns reply ((labelNode settings node).translate (services.answer patience)) s .noStatus w
          (before ++ (log₁ ++ log₂).map (Http.sending services.limit)) ∧
        ∀ x ∈ before ++ (log₁ ++ log₂).map (Http.sending services.limit),
          sendsPatch x.1 = false) := by
  refine ⟨Monitoring.predictionSeries_fails_iff, ?_⟩
  intro σ reply services settings patience node id window s u t w before pages page seen fault log₁
    log₂ hcomes hlength hquiet hfails
  have hquery := (Monitoring.predictionSeries_fails_iff services.monitoring settings.project id
    window (Http.server reply services.limit) patience u w fault (log₁ ++ log₂)).2
    (.inl ⟨pages, page, seen, t, log₁, log₂, hlength, rfl, hquiet, hfails⟩)
  exact ⟨hcomes.labelNode_failed hquery, hcomes.patchless hquery⟩

/-! ## A query without a second token -/

theorem comesToQuery_tokenWorld : ∃ before,
    ComesToQuery tokenWorld tokenServices plainSettings 3 tokenNode 1 "7" Monitoring.quarter 4
      before := by
  have hlocates : Locates tokenNode "z" "i" :=
    ⟨Cloud.eq_ok_of_toOption (by decide +kernel), by decide +kernel, by decide⟩
  have hrun : (((tokenServices.answer 3 (.instanceId plainSettings.project "z" "i")).run tokenWorld
        1).value.toOption.bind Except.toOption,
      ((tokenServices.answer 3 (.instanceId plainSettings.project "z" "i")).run tokenWorld
        1).state) = (some (some "7"), 3) := by decide +kernel
  obtain ⟨hvalue, hstate⟩ := Prod.mk.inj hrun
  have hwindow : Window.endingAt? (.early 900) plainSettings.window = some Monitoring.quarter := by
    decide +kernel
  exact ⟨_, .found hlocates ⟨Cloud.eq_ok_ok_of_toOption hvalue, hstate, rfl⟩ rfl hwindow⟩

/-- The first page is read and names another one, for which there is no token to be had. -/
theorem pageFails_tokenWorld : ∃ page cause log₁ u log₂,
    QuietPages tokenServices.monitoring plainSettings.project "7" Monitoring.quarter
      (Http.server tokenWorld none) none [] 4 [page] (some "x") ["x"] 6 log₁ ∧
    PageFails tokenServices.monitoring plainSettings.project "7" Monitoring.quarter
      (Http.server tokenWorld none) (some "x") 6 (.auth cause) u log₂ := by
  have hrun : (((tokenServices.monitoring.fetchPage plainSettings.project "7" Monitoring.quarter
        none).run (Http.server tokenWorld none) 4).value.toOption.bind Except.toOption,
      ((tokenServices.monitoring.fetchPage plainSettings.project "7" Monitoring.quarter
        none).run (Http.server tokenWorld none) 4).state) =
      (some { series := [], next := some "x" }, 6) := by decide +kernel
  obtain ⟨hpage, hstate⟩ := Prod.mk.inj hrun
  have hreads := Monitoring.pageReads_of_returns ⟨Cloud.eq_ok_ok_of_toOption hpage, hstate, rfl⟩
  obtain ⟨u, hurl⟩ := hreads.exists_url
  obtain ⟨u', hurl'⟩ := Monitoring.exists_url_of_ok hurl (some "x")
  obtain ⟨answer, t, log₂, hserver, -⟩ := Cloud.accessToken_returns (Http.server tokenWorld none)
    { base := "http://t" } 6
  have hdenied : ((Cloud.Metadata.accessToken { base := "http://t" }).run
      (Http.server tokenWorld none) 6).value.toOption.bind Except.toOption = none := by
    decide +kernel
  rw [hserver.value] at hdenied
  cases answer with
  | ok token => cases hdenied
  | error cause =>
    exact ⟨_, cause.message, _, t, log₂, .next hreads (by decide +kernel) rfl (by simp) .none,
      .token hurl' rfl hserver⟩

theorem failed_page_discards_tokenWorld : ∃ before cause u log,
    ComesToQuery tokenWorld tokenServices plainSettings 3 tokenNode 1 "7" Monitoring.quarter 4
      before ∧
    Returns (Http.server tokenWorld none) (tokenServices.monitoring.predictionSeries 3
      plainSettings.project "7" Monitoring.quarter) 4 (.error (.auth cause)) u log ∧
    Returns tokenWorld ((labelNode plainSettings tokenNode).translate (tokenServices.answer 3)) 1
      .noStatus u (before ++ log.map (Http.sending none)) := by
  obtain ⟨before, hcomes⟩ := comesToQuery_tokenWorld
  obtain ⟨page, cause, log₁, u, log₂, hquiet, hfails⟩ := pageFails_tokenWorld
  exact ⟨before, cause, u, log₁ ++ log₂, hcomes,
    (failed_page_discards_all.1 _ _ _ _ _ 3 4 u _ _).2
      (.inl ⟨[page], _, _, 6, log₁, log₂, by simp, rfl, hquiet, hfails⟩),
    (failed_page_discards_all.2 tokenWorld tokenServices plainSettings 3 tokenNode "7"
      Monitoring.quarter 1 4 6 u before [page] _ _ _ log₁ log₂ hcomes (by simp) hquiet hfails).1⟩

end NodeLabels.Prediction
