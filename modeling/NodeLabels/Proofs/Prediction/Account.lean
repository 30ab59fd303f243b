import NodeLabels.Proofs.Prediction.Node
/-!
# The account of a node

What was asked and written for a node can be told from its outcome, and the outcome from what was
asked and written: each call is made exactly if the answers before it call for it, then once and
with the right arguments, and each outcome stands for one course of answers.
-/

namespace NodeLabels.Prediction

open Dialogue (Exchange)
open Calendar (Instant)

variable {settings : Settings} {node : Node} {outcome : Outcome} {log : List (Exchange port)}

/-- One of the calls got this answer. -/
def Answered {κ α : Type} (calls : List (κ × α)) (answer : α) : Prop :=
  ∃ key, (key, answer) ∈ calls

@[simp] theorem not_answered_nil {κ α : Type} (answer : α) :
    ¬ Answered ([] : List (κ × α)) answer := by
  simp [Answered]

@[simp] theorem answered_singleton {κ α : Type} (call : κ × α) (answer : α) :
    Answered [call] answer ↔ answer = call.2 := by
  obtain ⟨key, given⟩ := call
  simp [Answered]

/-- The outcome of a node and the exchanges on the way to it account for each other. -/
structure Accounts (settings : Settings) (node : Node) (outcome : Outcome)
    (log : List (Exchange port)) : Prop where
  lookup_made : lookups log ≠ [] ↔ ∃ zone name, Locates node zone name
  lookup_once : ∀ zone name, Locates node zone name →
    ∃ answer, lookups log = [((settings.project, zone, name), answer)]
  query_made : queries log ≠ [] ↔ ∃ id, Answered (lookups log) (.ok (some id))
  query_once : ∀ id, Answered (lookups log) (.ok (some id)) →
    ∃ answer, queries log = [((settings.project, id), answer)]
  patch_made : patches log ≠ [] ↔ ∃ found, Answered (queries log) (.ok found) ∧
    ∃ raw, FirstValue found raw ∧ ∃ value, Recommends raw value
  patch_once : ∀ found, Answered (queries log) (.ok found) → ∀ raw, FirstValue found raw →
    ∀ value, Recommends raw value →
    ∃ answer, patches log = [((node.name, [(Label.recommendation, value)]), answer)]
  labeled : ∀ value, outcome = .labeled value ↔
    ((node.name, [(Label.recommendation, value)]), .ok ()) ∈ patches log
  patchFailed : outcome = .patchFailed ↔ ∃ failure, Answered (patches log) (.error failure)
  unrecognized : ∀ raw, outcome = .unrecognized raw ↔ ∃ found,
    Answered (queries log) (.ok found) ∧ FirstValue found raw ∧ ∀ value, ¬ Recommends raw value
  noStatus : outcome = .noStatus ↔ (∃ fault, Answered (queries log) (.error fault)) ∨
    ∃ found, Answered (queries log) (.ok found) ∧ ∀ raw, ¬ FirstValue found raw
  skipped : ∀ reason, outcome = .skipped reason ↔
    (∃ fault, instanceName node.providerId = .error fault ∧ reason = .providerId fault) ∨
    ((∃ name, instanceName node.providerId = .ok name) ∧
      (∀ zone, node.labels.find? Label.zone = some zone → zone = "") ∧ reason = .missingZone) ∨
    (∃ fault, Answered (lookups log) (.error fault) ∧
      reason = .instanceLookupFailed fault.message) ∨
    (Answered (lookups log) (.ok none) ∧ reason = .missingInstanceId)

theorem Locates.iff_eq {zone name : String} (h : Locates node zone name) (zone' name' : String) :
    Locates node zone' name' ↔ zone' = zone ∧ name' = name := by
  obtain ⟨hname, hzone, hne⟩ := h
  rw [Locates, hname, hzone, Except.ok.injEq, Option.some.injEq]
  constructor
  · rintro ⟨rfl, rfl, -⟩
    exact ⟨rfl, rfl⟩
  · rintro ⟨rfl, rfl⟩
    exact ⟨rfl, rfl, hne⟩

section

variable {zone name id : String} {stop : Instant} {window : Window} {found : List Series}

theorem Applied.accounts (hlocates : Locates node zone name)
    (h : Applied node found outcome log) : Accounts settings node outcome
      (lookedUp settings.project zone name (.ok (some id)) :: clockRead stop ::
        queried settings.project id window (.ok found) :: log) := by
  have hlocated := hlocates.iff_eq
  obtain ⟨hname, hzone, hne⟩ := hlocates
  cases h with
  | noPrediction hfirst => constructor <;> simp [hlocated, hname, hzone, hne, hfirst]
  | unrecognized hfirst hvalue =>
    constructor <;> simp [hlocated, hname, hzone, hne, hfirst.iff_eq, hvalue]
    exact fun raw => ⟨fun h => h ▸ ⟨rfl, hvalue⟩, fun h => h.1.symm⟩
  | labeled hfirst hvalue =>
    constructor <;> simp [hlocated, hname, hzone, hne, hfirst.iff_eq, hvalue.iff_eq]
    exact fun value => eq_comm
  | patchFailed hfirst hvalue failure =>
    constructor <;> simp [hlocated, hname, hzone, hne, hfirst.iff_eq, hvalue.iff_eq]

theorem Queried.accounts (hlocates : Locates node zone name)
    (h : Queried settings node id outcome log) : Accounts settings node outcome
      (lookedUp settings.project zone name (.ok (some id)) :: log) := by
  cases h with
  | failed hwindow fault =>
    have hlocated := hlocates.iff_eq
    obtain ⟨hname, hzone, hne⟩ := hlocates
    constructor <;> simp [hlocated, hname, hzone, hne]
  | answered hwindow happlied => exact happlied.accounts hlocates

end

theorem Handled.accounts (h : Handled settings node outcome log) :
    Accounts settings node outcome log := by
  cases h with
  | unnamed hname => constructor <;> simp [Locates, hname, eq_comm]
  | unplaced hname hzone =>
    have hempty : ∀ zone, node.labels.find? Label.zone = some zone → zone = "" := by
      simpa [Node.zone?, Option.filter_eq_none_iff] using hzone
    have hnone : ∀ zone name, ¬ Locates node zone name :=
      fun zone name hlocates => hlocates.2.2 (hempty zone hlocates.2.1)
    constructor <;> simp [hnone, hname]
    exact fun reason => ⟨fun h => ⟨hempty, h.symm⟩, fun h => h.2.symm⟩
  | lookupFailed hlocates fault =>
    have hlocated := hlocates.iff_eq
    obtain ⟨hname, hzone, hne⟩ := hlocates
    constructor <;> simp [hlocated, hname, hzone, hne]
    exact fun reason => eq_comm
  | noId hlocates =>
    have hlocated := hlocates.iff_eq
    obtain ⟨hname, hzone, hne⟩ := hlocates
    constructor <;> simp [hlocated, hname, hzone, hne]
    exact fun reason => eq_comm
  | found hlocates hqueried => exact hqueried.accounts hlocates

/-- Whatever is answered, the work on a node comes to an outcome that its exchanges account for. -/
theorem labelNode_accounts {σ : Type} {reply : (c : port.Call) → σ → port.Reply c × σ}
    (hclock : InCalendar settings reply) (node : Node) (s : σ) :
    ∃ outcome, ((labelNode settings node).run reply s).value = .ok outcome ∧
      Accounts settings node outcome ((labelNode settings node).exchanges reply s) := by
  obtain ⟨outcome, t, log, hreturns, hhandled⟩ := labelNode_handled hclock node s
  exact ⟨outcome, hreturns.value, hreturns.exchanges ▸ hhandled.accounts⟩

/-- A known prediction behind an empty one is written. -/
theorem labelNode_gpuNode_accounts :
    InCalendar plainSettings (plainAnswers.world (.ok []) swinging) ∧
    (∃ outcome, ((labelNode plainSettings (gpuNode "a" "DEGRADATION_PREDICTED")).run
        (plainAnswers.world (.ok []) swinging) 0).value = .ok outcome ∧
      Accounts plainSettings (gpuNode "a" "DEGRADATION_PREDICTED") outcome
        ((labelNode plainSettings (gpuNode "a" "DEGRADATION_PREDICTED")).exchanges
          (plainAnswers.world (.ok []) swinging) 0)) ∧
    (patches ((labelNode plainSettings (gpuNode "a" "DEGRADATION_PREDICTED")).exchanges
      (plainAnswers.world (.ok []) swinging) 0)).map Prod.fst =
        [("a", [(Label.recommendation, "False")])] :=
  ⟨inCalendar_swinging plainAnswers (.ok []),
    labelNode_accounts (inCalendar_swinging plainAnswers (.ok [])) _ 0, by decide +kernel⟩

end NodeLabels.Prediction
