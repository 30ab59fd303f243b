import NodeLabels.Calendar.Instant
import NodeLabels.Http
import NodeLabels.Topology.Cycle
/-!
# The machine that the program runs on

What the program asks of its machine while it works: to send requests, to tell the time, to keep the
metrics and to wait.
-/

namespace NodeLabels.Machine

open Calendar (Instant)

/-- What ended a pause. -/
inductive Interruption
  /-- The time was up. -/
  | due
  /-- Somebody asked the process to end. -/
  | terminated
  /-- Somebody pressed a key to end it. -/
  | interrupted
deriving DecidableEq, Repr

inductive Call
  /-- Sends a request and waits for the reply, not longer than `limit` if one is set. -/
  | send (limit : Option Span) (request : Http.Request)
  | now
  | count (outcome : Topology.Outcome)
  | stampSuccess
  | pause (interval : Span)
  /-- Serves the metrics at a port from now on, if it can be had. -/
  | serveMetrics (port : Nat)

def port : Port where
  Call := Call
  Reply
    | .send _ _ => Http.Reply
    | .now => Instant
    | .count _ => Unit
    | .stampSuccess => Unit
    | .pause _ => Interruption
    | .serveMetrics _ => Except String Unit

def now : Dialogue port Instant := .ask (P := port) .now
def count (outcome : Topology.Outcome) : Dialogue port Unit := .ask (P := port) (.count outcome)
def stampSuccess : Dialogue port Unit := .ask (P := port) .stampSuccess
def pause (interval : Span) : Dialogue port Interruption := .ask (P := port) (.pause interval)
def serveMetrics (n : Nat) : Dialogue port (Except String Unit) :=
  .ask (P := port) (.serveMetrics n)

/-- Carries out an exchange with a server, whose replies may take as long as `limit`. -/
def exchange {α : Type} (limit : Option Span) (d : Dialogue Http.port α) : Dialogue port α :=
  d.translate fun request => .ask (P := port) (.send limit request)

end NodeLabels.Machine
