import NodeLabels.Cloud.Compute
import NodeLabels.Cloud.Monitoring
import NodeLabels.Cluster.Client
import NodeLabels.Machine
import NodeLabels.Prediction.Pass
/-!
# The prediction pass over HTTP

The calls of a prediction pass, answered by the two cloud services and the cluster.
-/

namespace NodeLabels.Prediction

structure Services where
  compute : Cloud.Compute
  monitoring : Cloud.Monitoring
  nodes : Cluster.Operator
  /-- How long a cloud service may take for a reply. -/
  limit : Option Span := none
deriving DecidableEq, Repr

namespace Services

/-- At most `patience` pages are asked for in one query. -/
def answer (s : Services) (patience : Nat) : (c : Call) → Dialogue Machine.port (port.Reply c)
  | .listNodes selector => Machine.exchange none (s.nodes.listNodes selector)
  | .instanceId project zone name =>
    Machine.exchange s.limit (s.compute.instanceId project zone name)
  | .now => Machine.now
  | .series project id window =>
    Machine.exchange s.limit (s.monitoring.predictionSeries patience project id window)
  | .patch node labels => Machine.exchange none (s.nodes.patchLabels node labels)

end Services

end NodeLabels.Prediction
