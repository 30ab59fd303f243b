import NodeLabels.InMemory.Server
import NodeLabels.Machine
import NodeLabels.Metrics
/-!
# A machine in memory

A machine whose network is one server in memory and whose clock stands still. Its pauses end as they
are told to.
-/

namespace NodeLabels.InMemory

structure Computer where
  server : Server
  now : Calendar.Instant
  metrics : Metrics := {}
  /-- The ports at which the metrics are served. -/
  metricsPorts : List Nat := []
  /-- What ends the pauses to come. The process is asked to end when there is nothing left. -/
  pauses : List Machine.Interruption := []

def Computer.reply : (c : Machine.Call) → Computer → Machine.port.Reply c × Computer
  | .send _ request, m =>
    let (reply, server) := m.server.answer request
    (reply, { m with server })
  | .now, m => (m.now, m)
  | .count outcome, m => ((), { m with metrics := m.metrics.count outcome })
  | .stampSuccess, m => ((), { m with metrics := m.metrics.stamp m.now.secs })
  | .pause _, m => (m.pauses.headD .terminated, { m with pauses := m.pauses.tail })
  | .serveMetrics port, m => (.ok (), { m with metricsPorts := m.metricsPorts ++ [port] })

end NodeLabels.InMemory
