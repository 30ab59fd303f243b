import NodeLabels.Cluster.Shape
import NodeLabels.Node
/-!
# Nodes as API objects

The shape of a node and of a list of nodes in the core API of version 1, the reading of the parts
that matter here, and the patch that gives a node labels.
-/

namespace NodeLabels.Cluster

namespace Shape

def texts (keys : List String) : List (String × Shape) := keys.map (·, .text)

def ownerReference : Shape :=
  .record (texts ["apiVersion", "kind", "name", "uid"] ++
    [("blockOwnerDeletion", .flag), ("controller", .flag)])

def managedFields : Shape :=
  .record (texts ["apiVersion", "fieldsType", "manager", "operation", "subresource"] ++
    [("fieldsV1", .any), ("time", .time)])

def metadata : Shape :=
  .record (texts ["generateName", "name", "namespace", "resourceVersion", "selfLink", "uid"] ++
    [("annotations", .map .text), ("creationTimestamp", .time),
      ("deletionGracePeriodSeconds", .whole 64), ("deletionTimestamp", .time),
      ("finalizers", .list .text), ("generation", .whole 64), ("labels", .map .text),
      ("managedFields", .list managedFields), ("ownerReferences", .list ownerReference)])

def configSource : Shape :=
  .record [("configMap",
    .record (texts ["kubeletConfigKey", "name", "namespace", "resourceVersion", "uid"]))]

def taint : Shape := .record (texts ["effect", "key", "value"] ++ [("timeAdded", .time)])

def nodeSpec : Shape :=
  .record (texts ["externalID", "podCIDR", "providerID"] ++
    [("configSource", configSource), ("podCIDRs", .list .text), ("taints", .list taint),
      ("unschedulable", .flag)])

def nodeCondition : Shape :=
  .record (texts ["message", "reason", "status", "type"] ++
    [("lastHeartbeatTime", .time), ("lastTransitionTime", .time)])

def nodeStatus : Shape :=
  .record [("addresses", .list (.record (texts ["address", "type"]))),
    ("allocatable", .map .text), ("capacity", .map .text), ("conditions", .list nodeCondition),
    ("config", .record [("active", configSource), ("assigned", configSource), ("error", .text),
      ("lastKnownGood", configSource)]),
    ("daemonEndpoints", .record [("kubeletEndpoint", .record [("Port", .whole 32)])]),
    ("images", .list (.record [("names", .list .text), ("sizeBytes", .whole 64)])),
    ("nodeInfo", .record (texts ["architecture", "bootID", "containerRuntimeVersion",
      "kernelVersion", "kubeProxyVersion", "kubeletVersion", "machineID", "operatingSystem",
      "osImage", "systemUUID"])),
    ("phase", .text), ("volumesAttached", .list (.record (texts ["devicePath", "name"]))),
    ("volumesInUse", .list .text)]

def node : Shape :=
  .record [("apiVersion", .word "v1"), ("kind", .word "Node"), ("metadata", metadata),
    ("spec", nodeSpec), ("status", nodeStatus)]

def listMetadata : Shape :=
  .record (texts ["continue", "resourceVersion", "selfLink"] ++ [("remainingItemCount", .whole 64)])

end Shape

/-- The last member with the key. -/
def last? (key : String) : Json → Option Json
  | .object members => members.reverse.lookup key
  | _ => none

/-- The parts of a node that matter, from a document that has the shape of one. -/
def partsOf (j : Json) : Node :=
  let metadata := (last? "metadata" j).getD .null
  { name := ((last? "name" metadata).bind Json.Reader.string).getD ""
    providerId := (last? "spec" j >>= last? "providerID").bind Json.Reader.string
    labels := ((last? "labels" metadata).bind Json.Reader.labels).getD ∅ }

def readNode : Json.Reader Node := fun j => if Shape.node.fits j then some (partsOf j) else none

/-- A list of nodes. Its own metadata have to be there, and its items. -/
def readNodes : Json.Reader (List Node)
  | .object members => do
    let [metadata, items] ← Json.Reader.fields ["metadata", "items"] (.object members) | none
    if ! Shape.listMetadata.fits (← metadata) then none
    Json.Reader.list readNode (← items)
  | _ => none

/-- The merge patch that gives a node these labels and leaves everything else alone. -/
def labelPatch (labels : LabelMap) : Json :=
  .object [("metadata", .object [("labels",
    .object (labels.entries.map fun e => (e.1, .string e.2)))])]

end NodeLabels.Cluster
