import NodeLabels.Dialogue
import NodeLabels.Fault
import NodeLabels.Node
import NodeLabels.Signal
import NodeLabels.Window
/-!
# Prediction passes

A pass goes once over the nodes that match a selector. For each node it looks up the instance behind
it, asks for the failure predictions of that instance, and writes the recommendation that follows
from the first prediction found. A node on which something fails is given up alone.
-/

namespace NodeLabels.Prediction

open Calendar (Instant)

structure Settings where
  project : String
  selector : String := Label.gpuSelector
  window : Span := .seconds 900
deriving DecidableEq

inductive Call
  | listNodes (selector : String)
  | instanceId (project zone instanceName : String)
  | now
  | series (project instanceId : String) (window : Window)
  | patch (node : String) (labels : LabelMap)
deriving DecidableEq

def port : Port where
  Call := Call
  Reply
    | .listNodes _ => Except Failure (List Node)
    | .instanceId _ _ _ => Except SourceFault (Option String)
    | .now => Instant
    | .series _ _ _ => Except SourceFault (List Series)
    | .patch _ _ => Except Failure Unit

def listNodes (selector : String) : Dialogue port (Except Failure (List Node)) :=
  .ask (P := port) (.listNodes selector)
def instanceId (project zone name : String) : Dialogue port (Except SourceFault (Option String)) :=
  .ask (P := port) (.instanceId project zone name)
def now : Dialogue port Instant := .ask (P := port) .now
def series (project id : String) (window : Window) :
    Dialogue port (Except SourceFault (List Series)) :=
  .ask (P := port) (.series project id window)
def patch (node : String) (labels : LabelMap) : Dialogue port (Except Failure Unit) :=
  .ask (P := port) (.patch node labels)

/-- Why a node is passed over before its predictions are asked for. -/
inductive SkipReason
  | providerId (fault : ProviderFault)
  | missingZone
  | instanceLookupFailed (message : String)
  | missingInstanceId
deriving DecidableEq, Repr

def SkipReason.text : SkipReason → String
  | .providerId fault => fault.message
  | .missingZone => "missing zone label"
  | .instanceLookupFailed message => s!"instance lookup failed: {message}"
  | .missingInstanceId => "instance has no ID"

inductive Outcome
  | labeled (value : String)
  | skipped (reason : SkipReason)
  /-- No prediction could be had. -/
  | noStatus
  | unrecognized (value : String)
  | patchFailed
deriving DecidableEq, Repr

def event (level : Level) (message : String) (fields : List (String × String)) : Event :=
  { level, reporter := .prediction, message, fields := fields.map fun f => (f.1, .text f.2) }

/-- How an HTTP status that may be missing is shown. -/
def statusText : Option Nat → String
  | some code => s!"Some({code})"
  | none => "None"

/-- The label that records a recommendation. -/
def recommendation (value : String) : LabelMap := .ofList [(Label.recommendation, value)]

/-- Writes the recommendation that follows from the first prediction of a node. -/
def applyPrediction (node : Node) (id : String) (found : List Series) : Dialogue port Outcome := do
  .tellAll (passedOver found)
  match firstPrediction found with
  | none =>
    .tell { event .info "No failure prediction in window, labels not updated" [] with
      fields := [("node", .text node.name), ("instance_id", .text id),
        ("series", .count found.length)] }
    return .noStatus
  | some signal =>
    match signal.labelValue? with
    | none =>
      .tell (event .warn "Unknown prediction value, labels not updated"
        [("node", node.name), ("instance_id", id), ("prediction", signal.text)])
      return .unrecognized signal.text
    | some value =>
      match ← patch node.name (recommendation value) with
      | .ok () =>
        .tell (event .info "Updated recommendation label"
          [("node", node.name), ("prediction", signal.text), ("value", value)])
        return .labeled value
      | .error failure =>
        .tell (event .error "Failed to patch node"
          [("node", node.name), ("error", failure.fullText)])
        return .patchFailed

/-- Asks for the predictions of an instance in the window that ends now, and applies them. -/
def labelInstance (settings : Settings) (node : Node) (id : String) : Dialogue port Outcome := do
  match Window.endingAt? (← now) settings.window with
  | none => .halt .dateOutOfRange
  | some window =>
    match ← series settings.project id window with
    | .error fault =>
      .tell (event .warn "Failed to query failure prediction, labels not updated"
        [("node", node.name), ("instance_id", id), ("status", statusText fault.code?),
          ("error", fault.message)])
      return .noStatus
    | .ok found => applyPrediction node id found

/-- Processes one node. -/
def labelNode (settings : Settings) (node : Node) : Dialogue port Outcome := do
  match instanceName node.providerId with
  | .error fault =>
    .tell (event .info "Skipping node" [("node", node.name), ("reason", fault.message)])
    return .skipped (.providerId fault)
  | .ok name =>
    match node.zone? with
    | none =>
      .tell (event .warn "Node is missing zone label, skipping" [("node", node.name)])
      return .skipped .missingZone
    | some zone =>
      .tell (event .info "Processing node"
        [("node", node.name), ("instance", name), ("zone", zone)])
      match ← instanceId settings.project zone name with
      | .error fault =>
        .tell (event .warn "Failed to get instance ID, skipping"
          [("node", node.name), ("instance", name), ("zone", zone),
            ("status", statusText fault.code?), ("error", fault.message)])
        return .skipped (.instanceLookupFailed fault.message)
      | .ok none =>
        .tell (event .warn "Instance has no ID, skipping"
          [("node", node.name), ("instance", name)])
        return .skipped .missingInstanceId
      | .ok (some id) => labelInstance settings node id

structure Summary where
  nodes : Nat := 0
  labeled : Nat := 0
  skipped : Nat := 0
  noStatus : Nat := 0
  unrecognized : Nat := 0
  patchFailed : Nat := 0
deriving DecidableEq, Repr

namespace Summary

def add (s : Summary) (outcome : Outcome) : Summary :=
  let s := { s with nodes := s.nodes + 1 }
  match outcome with
  | .labeled _ => { s with labeled := s.labeled + 1 }
  | .skipped _ => { s with skipped := s.skipped + 1 }
  | .noStatus => { s with noStatus := s.noStatus + 1 }
  | .unrecognized _ => { s with unrecognized := s.unrecognized + 1 }
  | .patchFailed => { s with patchFailed := s.patchFailed + 1 }

/-- The counts by name. -/
def counts (s : Summary) : List (String × Nat) :=
  [("nodes", s.nodes), ("labeled", s.labeled), ("skipped", s.skipped), ("no_status", s.noStatus),
    ("unrecognized", s.unrecognized), ("patch_failed", s.patchFailed)]

theorem nodes_add (s : Summary) (outcome : Outcome) : (s.add outcome).nodes = s.nodes + 1 := by
  cases outcome <;> rfl

end Summary

/-- Processes the nodes one after the other. -/
def labelNodes (settings : Settings) : List Node → Dialogue port (List Outcome)
  | [] => return []
  | node :: nodes => do
    let outcome ← labelNode settings node
    let outcomes ← labelNodes settings nodes
    return outcome :: outcomes

def tally (outcomes : List Outcome) : Summary := outcomes.foldl Summary.add {}

/-- Labels every node that matches the selector. A failure to list them ends the pass. -/
def pass (settings : Settings) : Dialogue port (Except Failure Summary) := do
  .tell (event .info "Listing nodes with GPUs" [("selector", settings.selector)])
  match ← listNodes settings.selector with
  | .error failure => return .error (failure.addContext "Failed to list nodes")
  | .ok nodes =>
    .tell { event .info "Found GPU nodes to process" [] with
      fields := [("count", .count nodes.length)] }
    let summary := tally (← labelNodes settings nodes)
    .tell { event .info "Prediction pass complete" [] with
      fields := summary.counts.map fun c => (c.1, .count c.2) }
    return .ok summary

/-- Runs one pass and reports a failure instead of returning it. -/
def passOrReport (settings : Settings) : Dialogue port (Option Summary) := do
  match ← pass settings with
  | .ok summary => return some summary
  | .error failure =>
    .tell (event .error "Prediction pass aborted" [("error", failure.fullText)])
    return none

end NodeLabels.Prediction
