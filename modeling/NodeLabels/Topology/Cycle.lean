import NodeLabels.Dialogue
import NodeLabels.Placement
import NodeLabels.Span
/-!
# Topology cycles

One cycle reads the name and the placement of the local machine from the metadata service and
writes the placement to the labels of the node of that name. `update` also reports how the cycle
went and counts it, and `watch` repeats it until the program is told to stop.
-/

namespace NodeLabels.Topology

/-- How a cycle ended, as far as it is counted. -/
inductive Outcome
  | labeled | unavailable | malformed | patchFailed
deriving DecidableEq, Repr

def Outcome.text : Outcome → String
  | .labeled => "labeled"
  | .unavailable => "unavailable"
  | .malformed => "malformed"
  | .patchFailed => "patch_failed"

/-- What ended the pause between two cycles. -/
inductive Wake
  /-- The pause was over. -/
  | due
  /-- The stop flag was set to a value, its old one perhaps. -/
  | changed (stop : Bool)
  /-- Nobody is left to set the flag. -/
  | abandoned
deriving DecidableEq, Repr

def Wake.stops : Wake → Bool
  | .due => false
  | .changed stop => stop
  | .abandoned => true

inductive Call
  | instanceName
  | physicalHost
  | patch (node : String) (labels : LabelMap)
  | count (outcome : Outcome)
  /-- Notes the present time as that of the last success. -/
  | stampSuccess
  | pause (interval : Span)
deriving DecidableEq

def port : Port where
  Call := Call
  Reply
    | .instanceName => Except SourceFault String
    | .physicalHost => Except SourceFault String
    | .patch _ _ => Except Failure Unit
    | .count _ => Unit
    | .stampSuccess => Unit
    | .pause _ => Wake

def instanceName : Dialogue port (Except SourceFault String) := .ask (P := port) .instanceName
def physicalHost : Dialogue port (Except SourceFault String) := .ask (P := port) .physicalHost
def patch (node : String) (labels : LabelMap) : Dialogue port (Except Failure Unit) :=
  .ask (P := port) (.patch node labels)
def count (outcome : Outcome) : Dialogue port Unit := .ask (P := port) (.count outcome)
def stampSuccess : Dialogue port Unit := .ask (P := port) .stampSuccess
def pause (interval : Span) : Dialogue port Wake := .ask (P := port) (.pause interval)

/-- What a successful cycle wrote, and where. -/
structure Update where
  node : String
  placement : Placement
deriving DecidableEq, Repr

def event (level : Level) (message : String) (fields : List (String × Event.Value) := []) : Event :=
  { level, reporter := .topology, message, fields }

def Update.event (u : Update) : Event :=
  Topology.event .info "Updated topology labels"
    [("node", .text u.node), ("cluster", .text u.placement.cluster),
      ("rack", .text u.placement.rack), ("host", .text u.placement.host)]

/-- Reads the facts and patches the node once. -/
def cycle : Dialogue port (Except LabelFault Update) := do
  match ← instanceName with
  | .error fault => return .error (.unavailable "node name" fault)
  | .ok name =>
    let node := Text.trim name
    if node = "" then return .error (.malformed "node name" node)
    match ← physicalHost with
    | .error fault => return .error (.unavailable "physical host" fault)
    | .ok raw =>
      match Placement.parse raw with
      | .error fault => return .error fault
      | .ok placement =>
        match ← patch node placement.labels with
        | .error failure => return .error (.patch node failure)
        | .ok () =>
          let update := { node, placement : Update }
          .tell update.event
          return .ok update

/-- Reports the fault that ended a cycle. -/
def faultEvent (fault : LabelFault) : Event :=
  let fields := [("error", .text fault.message)]
  match fault with
  | .unavailable _ _ => event .warn "Topology metadata not available, skipping cycle" fields
  | .malformed _ _ => event .error "Topology metadata malformed, skipping cycle" fields
  | .patch _ _ => event .error "Failed to apply topology labels" fields

def outcome : Except LabelFault Update → Outcome
  | .ok _ => .labeled
  | .error (.unavailable _ _) => .unavailable
  | .error (.malformed _ _) => .malformed
  | .error (.patch _ _) => .patchFailed

/-- Runs one cycle, reports it and counts it. -/
def update : Dialogue port (Except LabelFault Update) := do
  let result ← cycle
  match result with
  | .ok _ => stampSuccess
  | .error fault => .tell (faultEvent fault)
  count (outcome result)
  return result

def startEvent (interval : Span) : Event :=
  event .info "Starting topology labeler" [("interval", .text interval.shortText)]

def cycleEvent : Event := event .info "Starting node update"

def stopEvent : Event := event .info "Shutdown signal received, stopping topology labeler"

/-- Cycles with pauses between them. At most `patience` cycles are run. -/
def repeatCycles (interval : Span) : (patience : Nat) → Dialogue port Unit
  | 0 => .halt .outOfPatience
  | patience + 1 => do
    .tell cycleEvent
    let _ ← update
    let wake ← pause interval
    if wake.stops then .tell stopEvent else repeatCycles interval patience

/-- Runs cycles until a wake-up says stop. The first one runs at once, whatever the flag says. -/
def watch (patience : Nat) (interval : Span) : Dialogue port Unit := do
  .tell (startEvent interval)
  repeatCycles interval patience

end NodeLabels.Topology
