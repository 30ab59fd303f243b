import NodeLabels.Proofs.Cloud.Room
import NodeLabels.Proofs.Cluster.Operator
import NodeLabels.Proofs.Prediction.Worked
import NodeLabels.Proofs.Prediction.Parts
/-!
# What a pass does to the machine

The calls that a pass makes of its machine, each for its own project, whatever the replies
(`passOrReport_sends`), and the only ways in which it can be halted (`passOrReport_haltsOnly`).
-/

namespace NodeLabels.Prediction

open Cloud.Monitoring (NamesAmong mostPages predictionSeries_ends predictionSeries_takes)
open Dialogue (HaltsOnly Within)
open Http (Takes exchange_takes returned sent? server value_exchange)
open Machine (sendsPatch)

/-- A call that a pass can make of the machine. -/
inductive Services.Sends (s : Services) (settings : Settings) : Machine.port.Call → Prop
  | listing {r : Http.Request}
      (h : s.nodes.client.listRequest? settings.selector = some r) : Sends s settings (.send none r)
  | token {r : Http.Request} (h : s.compute.tokens.Asks r ∨ s.monitoring.tokens.Asks r) :
      Sends s settings (.send s.limit r)
  | lookup {r : Http.Request} {zone name : String}
      (h : s.compute.Asks settings.project zone name r) : Sends s settings (.send s.limit r)
  | clock : Sends s settings .now
  | page {r : Http.Request} {id : String} {window : Window}
      (h : s.monitoring.Asks settings.project id window r) : Sends s settings (.send s.limit r)
  | patch {r : Http.Request} {node value : String}
      (h : s.nodes.Patches node (recommendation value) r) : Sends s settings (.send none r)

/-- In a dry run none of these is a patch. -/
theorem Services.Sends.patchless {s : Services} {settings : Settings} {c : Machine.port.Call}
    (h : s.Sends settings c) (hdry : s.nodes.dryRun = true) : sendsPatch c = false := by
  have hget {limit : Option Span} {r : Http.Request} (hr : r.method = .get) :
      sendsPatch (.send limit r) = false := by
    simp [sendsPatch, hr]
  cases h with
  | listing h => exact hget (Cluster.Client.method_request? h)
  | token h => exact hget (h.elim (·.method) (·.method))
  | lookup h => exact hget h.method
  | clock => rfl
  | page h => exact hget h.method
  | patch h => exact absurd (h.1.symm.trans hdry) Bool.false_ne_true

section

variable (s : Services) (settings : Settings) (patience : Nat)

theorem answer_sends {c : port.Call} (h : settings.Allows c) :
    (s.answer patience c).Within (s.Sends settings) fun _ => True := by
  cases c with
  | listNodes selector =>
    obtain rfl : selector = settings.selector := h
    exact (s.nodes.client.listNodes_within settings.selector).translate fun r hr =>
      .ask (.listing hr)
  | instanceId project zone name =>
    obtain rfl : project = settings.project := h
    refine (s.compute.instanceId_within settings.project zone name).translate fun r hr => ?_
    obtain htoken | hlookup := hr
    · exact .ask (.token (.inl htoken))
    · exact .ask (.lookup hlookup)
  | now => exact .ask .clock
  | series project id window =>
    obtain rfl : project = settings.project := h
    refine (s.monitoring.predictionSeries_within settings.project id window patience).translate
      fun r hr => ?_
    obtain htoken | hpage := hr
    · exact .ask (.token (.inr htoken))
    · exact .ask (.page hpage)
  | patch node labels =>
    obtain ⟨value, rfl⟩ := h
    exact (s.nodes.patchLabels_within node (recommendation value)).translate fun r hr =>
      .ask (.patch hr)

theorem passOrReport_sends :
    ((passOrReport settings).translate (s.answer patience)).Within (s.Sends settings)
      fun _ => True :=
  (passOrReport_within settings).translate fun _ h => answer_sends s settings patience h

end

/-! ## Halts -/

section

variable {σ : Type} {reply : (c : Machine.port.Call) → σ → Machine.port.Reply c × σ}
  {services : Services} {settings : Settings} {patience : Nat} {reasons : Halt → Prop}

theorem haltsOnly_of_takes {α : Type} {d : Dialogue Machine.port α}
    {rel : α → List Http.Step → Prop} (h : Takes sent? reply d (returned rel)) :
    HaltsOnly reply reasons d := by
  refine .of_values fun s => ?_
  obtain ⟨steps, -, a, ha, -⟩ := h s
  exact ⟨a, ha⟩

theorem answer_haltsOnly (hseries : ∀ id window,
      HaltsOnly reply reasons (services.answer patience (.series settings.project id window)))
    {c : port.Call} (hc : settings.Allows c) :
    HaltsOnly reply reasons (services.answer patience c) := by
  cases c with
  | listNodes selector =>
    exact haltsOnly_of_takes (exchange_takes (Cluster.listNodes_takes _ _ _))
  | instanceId project zone name =>
    exact haltsOnly_of_takes (exchange_takes (Cloud.instanceId_takes _ _ _ _ _))
  | now => exact haltsOnly_of_takes now_takes
  | series project id window =>
    obtain rfl : project = settings.project := hc
    exact hseries id window
  | patch node labels =>
    exact haltsOnly_of_takes (exchange_takes (Cluster.patchLabels_takes _ _ _ _))

section

variable (hseries : ∀ id window,
    HaltsOnly reply reasons (services.answer patience (.series settings.project id window)))
include hseries

theorem ask_haltsOnly {c : port.Call} (hc : settings.Allows c) :
    HaltsOnly reply reasons ((Dialogue.ask c).translate (services.answer patience)) := by
  have h := answer_haltsOnly hseries hc
  rwa [← Dialogue.translate_ask (services.answer patience) c] at h

theorem haltsOnly_ofParts : OfParts settings fun _ d =>
    HaltsOnly reply reasons (d.translate (services.answer patience)) where
  done a := .done a
  report h e := h.report e
  bind h hf := (congrArg _ (Dialogue.translate_bind _ _ _)).mpr (h.bind hf)
  listNodes := ask_haltsOnly hseries rfl
  instanceId _ _ := ask_haltsOnly hseries rfl
  patch _ value := ask_haltsOnly hseries ⟨value, rfl⟩

variable (hclock : ∀ s, Window.endingAt? (reply Machine.Call.now s).1 settings.window ≠ none)
include hclock

theorem labelInstance_haltsOnly (node : Node) (id : String) :
    HaltsOnly reply reasons
      ((labelInstance settings node id).translate (services.answer patience)) := by
  unfold labelInstance
  refine HaltsOnly.translate_ask_bind (answer_haltsOnly hseries trivial) fun s stop hstop => ?_
  cases hstop
  obtain ⟨window, hwindow⟩ := Option.ne_none_iff_exists'.1 (hclock s)
  simp only [hwindow]
  refine HaltsOnly.translate_ask_bind (hseries id window) fun s answer _ => ?_
  cases answer with
  | error fault => exact (haltsOnly_ofParts hseries).tell_done _ _
  | ok found => exact (haltsOnly_ofParts hseries).applyPrediction node id found

/-- Where every reading of the clock leaves room for the window, nothing but a query can be
halted. -/
theorem passOrReport_haltsOnly :
    HaltsOnly reply reasons ((passOrReport settings).translate (services.answer patience)) :=
  (haltsOnly_ofParts hseries).passOrReport (labelInstance_haltsOnly hseries hclock)

end

/-- A query is halted when its patience is used up. -/
theorem series_haltsOnly (project id : String) (window : Window) :
    HaltsOnly reply (· = .outOfPatience)
      (services.answer patience (.series project id window)) := by
  intro s why hwhy
  obtain ⟨steps, -, pages, -, hhalt⟩ := exchange_takes
    (predictionSeries_takes (server reply services.limit) services.monitoring project id window
      patience) s
  exact (hhalt why hwhy).1

/-- A query is not halted if it has a result on the server that the replies make. -/
theorem series_returns {project id : String} {window : Window}
    (hresult : ∀ s, ∃ v, ((services.monitoring.predictionSeries patience project id window).run
      (server reply services.limit) s).value = .ok v) :
    HaltsOnly reply (fun _ => False) (services.answer patience (.series project id window)) := by
  refine .of_values fun s => ?_
  obtain ⟨v, hv⟩ := hresult s
  have hvalue : ((services.answer patience (.series project id window)).run reply s).value = _ :=
    value_exchange services.limit _ s
  exact ⟨v, hvalue.trans hv⟩

/-- It has one if its patience is enough for every page that is named. -/
theorem series_returns_of_names {names : Finset String}
    (hnames : NamesAmong (server reply services.limit) names) (hpatience : names.card < patience)
    (project id : String) (window : Window) :
    HaltsOnly reply (fun _ => False) (services.answer patience (.series project id window)) :=
  series_returns ((hnames.bounded services.monitoring project id window).exists_value .nil
    hpatience)

/-- It has one in any case if its patience is enough for every page that can be asked for. -/
theorem series_returns_of_mostPages (hpatience : mostPages ≤ patience) (project id : String)
    (window : Window) :
    HaltsOnly reply (fun _ => False) (services.answer patience (.series project id window)) :=
  series_returns (predictionSeries_ends services.monitoring project id window hpatience
    (server reply services.limit))

end

end NodeLabels.Prediction
