import NodeLabels.Text.Quoted
/-!
# Faults of the cluster API

Why a call to the Kubernetes API failed, with the texts of the failure and of what it rests on.
-/

namespace NodeLabels.Cluster

/-- What the API server says about a request that it refuses. -/
structure Refusal where
  status : String
  code : Nat
  reason : String
  message : String
deriving DecidableEq, Repr

def Refusal.text (r : Refusal) : String := s!"{r.message}: {r.reason}"

def Refusal.describe (r : Refusal) : String :=
  "ErrorResponse \x7b status: " ++ Text.quote r.status ++ ", message: " ++ Text.quote r.message ++
    ", reason: " ++ Text.quote r.reason ++ ", code: " ++ toString r.code ++ " \x7d"

inductive Fault
  /-- The server refused the request. -/
  | api (refusal : Refusal)
  /-- The reply is no document of the expected shape. -/
  | misshapen
  /-- The reply is not UTF-8. -/
  | notUtf8
  /-- The node name cannot stand in the path of a request. -/
  | unusablePath
  /-- No way to reach a cluster is configured. -/
  | notConfigured
  /-- No reply came: `reasons` leads from the transport to the bottom of the matter. -/
  | transport (reasons : List String)
deriving DecidableEq, Repr

/-- The text of the fault, followed by those of its causes. -/
def Fault.chain : Fault → List String
  | .api r => [s!"ApiError: {r.text} ({r.describe})", r.text]
  | .misshapen => ["Error deserializing response"]
  | .notUtf8 => ["UTF-8 Error: invalid utf-8 sequence", "invalid utf-8 sequence"]
  | .unusablePath =>
    ["Failed to build request: failed to build request: invalid uri character",
      "failed to build request: invalid uri character", "invalid uri character"]
  | .notConfigured => ["Failed to infer configuration"]
  | .transport reasons => ("HyperError: " ++ reasons.headD "") :: reasons

end NodeLabels.Cluster
