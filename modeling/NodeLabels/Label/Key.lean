/-!
# Label keys and cloud identifiers

The label keys the two jobs read and write, and the identifiers of the failure prediction metric.
-/

namespace NodeLabels.Label

/-- Physical cluster that the node's host belongs to. -/
def cluster : String := "topology.gke.io/cluster"

/-- Rack that the node's host sits in. -/
def rack : String := "topology.gke.io/rack"

/-- Physical host that runs the node's virtual machine. -/
def host : String := "topology.gke.io/host"

/-- Whether the node is fit for large training workloads. -/
def recommendation : String := "gke.io/recommended-to-run-large-training-workload"

def zone : String := "topology.kubernetes.io/zone"

/-- Selects the nodes that carry GPUs. -/
def gpuSelector : String := "cloud.google.com/gke-gpu=true"

/-- Start of the provider ID of a node backed by Compute Engine. -/
def gceProvider : String := "gce://"

/-- Metric that carries the GPU failure prediction. -/
def predictionMetric : String := "compute.googleapis.com/instance/gpu/failure_prediction_status"

/-- Monitored resource type of Compute Engine instances. -/
def gceResource : String := "gce_instance"

/-- Metric label that holds the prediction. -/
def predictionValue : String := "Value"

end NodeLabels.Label
