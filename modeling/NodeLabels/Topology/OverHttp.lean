import NodeLabels.Cloud.Metadata
import NodeLabels.Cluster.Client
import NodeLabels.Machine
/-!
# The topology job over HTTP

The calls of the topology job, answered by the metadata server and the cluster.
-/

namespace NodeLabels.Topology

structure Services where
  metadata : Cloud.Metadata
  nodes : Cluster.Operator
  /-- How long the metadata server may take for a reply. -/
  limit : Option Span := none
deriving DecidableEq, Repr

open Machine (Interruption)

/-- What is reported when a pause is broken off. -/
def interruptionEvents : Interruption → List Event
  | .due => []
  | .terminated =>
    [{ level := .info, reporter := .program, message := "Received SIGTERM, initiating shutdown" }]
  | .interrupted =>
    [{ level := .info, reporter := .program, message := "Received Ctrl+C, initiating shutdown" }]

/-- Whoever ends the process sets the stop flag. -/
def wakeOf : Interruption → Wake
  | .due => .due
  | .terminated | .interrupted => .changed true

namespace Services

def answer (s : Services) : (c : Call) → Dialogue Machine.port (port.Reply c)
  | .instanceName => Machine.exchange s.limit s.metadata.instanceName
  | .physicalHost => Machine.exchange s.limit s.metadata.physicalHost
  | .patch node labels => Machine.exchange none (s.nodes.patchLabels node labels)
  | .count outcome => Machine.count outcome
  | .stampSuccess => Machine.stampSuccess
  | .pause interval => do
    let interruption ← Machine.pause interval
    .tellAll (interruptionEvents interruption)
    return wakeOf interruption

end Services

end NodeLabels.Topology
