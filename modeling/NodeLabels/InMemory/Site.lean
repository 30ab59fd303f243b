import NodeLabels.InMemory.Cloud
import NodeLabels.InMemory.Metadata
import NodeLabels.InMemory.Nodes
import NodeLabels.Metrics
import NodeLabels.Prediction.Pass
/-!
# Jobs on services in memory

The replies that the two jobs get from services held in memory.
-/

namespace NodeLabels.InMemory

/-- All that the topology job can reach. -/
structure Host where
  metadata : Metadata
  nodes : Nodes
  metrics : Metrics := {}
  /-- The time that a success is stamped with. -/
  clock : Int := 0

/-- The replies to the topology job. A pause is broken off, nobody being left to end it. -/
def Host.reply : (c : Topology.Call) → Host → Topology.port.Reply c × Host
  | .instanceName, m =>
    let (answer, metadata) := m.metadata.readName
    (answer, { m with metadata })
  | .physicalHost, m =>
    let (answer, metadata) := m.metadata.readPhysicalHost
    (answer, { m with metadata })
  | .patch node labels, m =>
    let (answer, nodes) := m.nodes.patch node labels
    (answer, { m with nodes })
  | .count outcome, m => ((), { m with metrics := m.metrics.count outcome })
  | .stampSuccess, m => ((), { m with metrics := m.metrics.stamp m.clock })
  | .pause _, m => (.abandoned, m)

/-- All that a prediction pass can reach. -/
structure Site where
  nodes : Nodes
  instances : Instances
  series : SeriesStore
  now : Calendar.Instant

def Site.reply : (c : Prediction.Call) → Site → Prediction.port.Reply c × Site
  | .listNodes selector, s =>
    let (answer, nodes) := s.nodes.list selector
    (answer, { s with nodes })
  | .instanceId project zone name, s =>
    let (answer, instances) := s.instances.instanceId project zone name
    (answer, { s with instances })
  | .now, s => (s.now, s)
  | .series project id window, s =>
    let (answer, series) := s.series.query project id window
    (answer, { s with series })
  | .patch node labels, s =>
    let (answer, nodes) := s.nodes.patch node labels
    (answer, { s with nodes })

end NodeLabels.InMemory
