import NodeLabels.Proofs.Dialogue.Exchange
import NodeLabels.Proofs.Prediction.Answers
import NodeLabels.Proofs.Prediction.First
/-!
# One node of a pass

How the work on a node can end, and what was looked up, queried and patched by then. The relations
`Applied`, `Queried` and `Handled` have one rule for each ending and follow the three parts of the
work. That the outcome and the calls account for each other is read off from the rules.
-/

namespace NodeLabels.Prediction

open Dialogue (Exchange Returns)
open Calendar (Instant)

def lookedUp (project zone name : String) (answer : Except SourceFault (Option String)) :
    Exchange port := ⟨Call.instanceId project zone name, answer⟩

def clockRead (stop : Instant) : Exchange port := ⟨Call.now, stop⟩

def queried (project id : String) (window : Window) (answer : Except SourceFault (List Series)) :
    Exchange port := ⟨Call.series project id window, answer⟩

def patched (name : String) (labels : LabelMap) (answer : Except Failure Unit) : Exchange port :=
  ⟨Call.patch name labels, answer⟩

/-- The lookups among the exchanges, each with its answer. -/
def lookups (log : List (Exchange port)) :
    List ((String × String × String) × Except SourceFault (Option String)) :=
  log.filterMap fun
    | ⟨Call.instanceId project zone name, answer⟩ => some ((project, zone, name), answer)
    | _ => none

/-- The queries among the exchanges, each with its answer. -/
def queries (log : List (Exchange port)) :
    List ((String × String) × Except SourceFault (List Series)) :=
  log.filterMap fun
    | ⟨Call.series project id _, answer⟩ => some ((project, id), answer)
    | _ => none

/-- The patches among the exchanges, with the labels entry by entry, each with its answer. -/
def patches (log : List (Exchange port)) :
    List ((String × List (String × String)) × Except Failure Unit) :=
  log.filterMap fun
    | ⟨Call.patch node labels, answer⟩ => some ((node, labels.entries), answer)
    | _ => none

section

variable (project zone name id node : String) (stop : Instant) (window : Window)
  (labels : LabelMap) (log : List (Exchange port))

@[simp] theorem lookups_nil : lookups [] = [] := rfl
@[simp] theorem queries_nil : queries [] = [] := rfl
@[simp] theorem patches_nil : patches [] = [] := rfl

@[simp] theorem lookups_lookedUp (answer : Except SourceFault (Option String)) :
    lookups (lookedUp project zone name answer :: log) =
      ((project, zone, name), answer) :: lookups log := rfl

@[simp] theorem queries_lookedUp (answer : Except SourceFault (Option String)) :
    queries (lookedUp project zone name answer :: log) = queries log := rfl

@[simp] theorem patches_lookedUp (answer : Except SourceFault (Option String)) :
    patches (lookedUp project zone name answer :: log) = patches log := rfl

@[simp] theorem lookups_clockRead : lookups (clockRead stop :: log) = lookups log := rfl
@[simp] theorem queries_clockRead : queries (clockRead stop :: log) = queries log := rfl
@[simp] theorem patches_clockRead : patches (clockRead stop :: log) = patches log := rfl

@[simp] theorem lookups_queried (answer : Except SourceFault (List Series)) :
    lookups (queried project id window answer :: log) = lookups log := rfl

@[simp] theorem queries_queried (answer : Except SourceFault (List Series)) :
    queries (queried project id window answer :: log) = ((project, id), answer) :: queries log :=
  rfl

@[simp] theorem patches_queried (answer : Except SourceFault (List Series)) :
    patches (queried project id window answer :: log) = patches log := rfl

@[simp] theorem lookups_patched (answer : Except Failure Unit) :
    lookups (patched node labels answer :: log) = lookups log := rfl

@[simp] theorem queries_patched (answer : Except Failure Unit) :
    queries (patched node labels answer :: log) = queries log := rfl

@[simp] theorem patches_patched (answer : Except Failure Unit) :
    patches (patched node labels answer :: log) =
      ((node, labels.entries), answer) :: patches log := rfl

end

@[simp] theorem entries_recommendation (value : String) :
    (recommendation value).entries = [(Label.recommendation, value)] := rfl

/-- The node has an instance that can be looked up under its zone and its name. -/
def Locates (node : Node) (zone name : String) : Prop :=
  instanceName node.providerId = .ok name ∧ node.labels.find? Label.zone = some zone ∧ zone ≠ ""

theorem zone?_eq_some {node : Node} {zone : String} :
    node.zone? = some zone ↔ node.labels.find? Label.zone = some zone ∧ zone ≠ "" := by
  simp [Node.zone?, Option.filter_eq_some_iff]

/-! ## The ways to end -/

/-- What came of the series that were found for the instance of a node. -/
inductive Applied (node : Node) (found : List Series) : Outcome → List (Exchange port) → Prop
  | noPrediction (hfirst : ∀ raw, ¬ FirstValue found raw) : Applied node found .noStatus []
  | unrecognized {raw : String} (hfirst : FirstValue found raw)
      (hvalue : ∀ value, ¬ Recommends raw value) : Applied node found (.unrecognized raw) []
  | labeled {raw value : String} (hfirst : FirstValue found raw) (hvalue : Recommends raw value) :
      Applied node found (.labeled value) [patched node.name (recommendation value) (.ok ())]
  | patchFailed {raw value : String} (hfirst : FirstValue found raw)
      (hvalue : Recommends raw value) (failure : Failure) :
      Applied node found .patchFailed [patched node.name (recommendation value) (.error failure)]

/-- What came of asking for the predictions of an instance. -/
inductive Queried (settings : Settings) (node : Node) (id : String) :
    Outcome → List (Exchange port) → Prop
  | failed {stop : Instant} {window : Window}
      (hwindow : Window.endingAt? stop settings.window = some window) (fault : SourceFault) :
      Queried settings node id .noStatus
        [clockRead stop, queried settings.project id window (.error fault)]
  | answered {stop : Instant} {window : Window} {found : List Series} {outcome : Outcome}
      {log : List (Exchange port)}
      (hwindow : Window.endingAt? stop settings.window = some window)
      (happlied : Applied node found outcome log) :
      Queried settings node id outcome
        (clockRead stop :: queried settings.project id window (.ok found) :: log)

/-- What came of the work on a node. -/
inductive Handled (settings : Settings) (node : Node) : Outcome → List (Exchange port) → Prop
  | unnamed {fault : ProviderFault} (hname : instanceName node.providerId = .error fault) :
      Handled settings node (.skipped (.providerId fault)) []
  | unplaced {name : String} (hname : instanceName node.providerId = .ok name)
      (hzone : node.zone? = none) : Handled settings node (.skipped .missingZone) []
  | lookupFailed {zone name : String} (hlocates : Locates node zone name) (fault : SourceFault) :
      Handled settings node (.skipped (.instanceLookupFailed fault.message))
        [lookedUp settings.project zone name (.error fault)]
  | noId {zone name : String} (hlocates : Locates node zone name) :
      Handled settings node (.skipped .missingInstanceId)
        [lookedUp settings.project zone name (.ok none)]
  | found {zone name id : String} {outcome : Outcome} {log : List (Exchange port)}
      (hlocates : Locates node zone name) (hqueried : Queried settings node id outcome log) :
      Handled settings node outcome (lookedUp settings.project zone name (.ok (some id)) :: log)

section

variable {σ : Type} {settings : Settings} {node : Node}
  {reply : (c : port.Call) → σ → port.Reply c × σ}

theorem applyPrediction_applied (reply : (c : port.Call) → σ → port.Reply c × σ) (node : Node)
    (id : String) (found : List Series) (s : σ) :
    ∃ outcome t log, Returns reply (applyPrediction node id found) s outcome t log ∧
      Applied node found outcome log := by
  unfold applyPrediction
  cases hraw : found.findSome? Series.prediction? with
  | none =>
    have hsignal : firstPrediction found = none := by rw [firstPrediction, hraw]; rfl
    have hnone : ∀ raw, ¬ FirstValue found raw := fun raw h => by
      rw [firstValue_iff, hraw] at h
      cases h
    rw [hsignal]
    exact ⟨_, s, [], (Returns.tell_done _ _ s).tellAll_bind _, .noPrediction hnone⟩
  | some raw =>
    have hsignal : firstPrediction found = some (Signal.ofRaw raw) := by
      rw [firstPrediction, hraw]; rfl
    have hfirst : FirstValue found raw := firstValue_iff.2 hraw
    rw [hsignal]
    cases hvalue : (Signal.ofRaw raw).labelValue? with
    | none =>
      have hnone : ∀ value, ¬ Recommends raw value := fun value h => by
        rw [recommends_iff, hvalue] at h
        cases h
      refine ⟨.unrecognized raw, s, [], Returns.tellAll_bind ?_ _, .unrecognized hfirst hnone⟩
      simp only [hvalue, Signal.text_ofRaw]
      exact Returns.tell_done _ _ s
    | some value =>
      have hrecommends : Recommends raw value := recommends_iff.2 hvalue
      simp only [hvalue]
      rcases hreply : reply (Call.patch node.name (recommendation value)) s with ⟨answer, t⟩
      have hask := Returns.ask (P := port) hreply
      cases answer with
      | ok =>
        exact ⟨_, t, _, (hask.bind_silent (.tell_done _ _ _)).tellAll_bind _,
          .labeled hfirst hrecommends⟩
      | error failure =>
        exact ⟨_, t, _, (hask.bind_silent (.tell_done _ _ _)).tellAll_bind _,
          .patchFailed hfirst hrecommends failure⟩

theorem labelInstance_queried (hclock : InCalendar settings reply) (node : Node) (id : String)
    (s : σ) : ∃ outcome t log, Returns reply (labelInstance settings node id) s outcome t log ∧
      Queried settings node id outcome log := by
  unfold labelInstance
  obtain ⟨window, hwindow⟩ := hclock s
  rcases hreply : reply (Call.series settings.project id window) (reply Call.now s).2 with
    ⟨answer, t⟩
  have hask := Returns.ask (P := port) hreply
  cases answer with
  | error fault =>
    refine ⟨.noStatus, t, _, Returns.bind (.ask rfl) ?_, .failed hwindow fault⟩
    simp only [hwindow]
    exact hask.bind_silent (.tell_done _ _ _)
  | ok found =>
    obtain ⟨outcome, u, log, happly, happlied⟩ := applyPrediction_applied reply node id found t
    refine ⟨outcome, u, _, Returns.bind (.ask rfl) ?_, .answered hwindow happlied⟩
    simp only [hwindow]
    exact hask.bind happly

theorem labelNode_handled (hclock : InCalendar settings reply) (node : Node) (s : σ) :
    ∃ outcome t log, Returns reply (labelNode settings node) s outcome t log ∧
      Handled settings node outcome log := by
  unfold labelNode
  cases hname : instanceName node.providerId with
  | error fault => exact ⟨_, s, _, Returns.tell_done _ _ s, .unnamed hname⟩
  | ok name =>
    cases hzone : node.zone? with
    | none => exact ⟨_, s, _, Returns.tell_done _ _ s, .unplaced hname hzone⟩
    | some zone =>
      have hlocates : Locates node zone name := ⟨hname, zone?_eq_some.1 hzone⟩
      rcases hreply : reply (Call.instanceId settings.project zone name) s with ⟨answer, t⟩
      have hask := Returns.ask (P := port) hreply
      match answer with
      | .error fault =>
        exact ⟨_, t, _, (hask.bind_silent (.tell_done _ _ _)).tell_bind _,
          .lookupFailed hlocates fault⟩
      | .ok none =>
        exact ⟨_, t, _, (hask.bind_silent (.tell_done _ _ _)).tell_bind _, .noId hlocates⟩
      | .ok (some id) =>
        obtain ⟨outcome, u, log, hquery, hqueried⟩ := labelInstance_queried hclock node id t
        exact ⟨outcome, u, _, (hask.bind hquery).tell_bind _, .found hlocates hqueried⟩

end

end NodeLabels.Prediction
