/-!
# Log events

What the program reports while it works. An event has a level, the part of the program that reports
it, a fixed message and named fields.
-/

namespace NodeLabels

inductive Level
  | trace | debug | info | warn | error
deriving DecidableEq, Repr

def Level.text : Level → String
  | .trace => "TRACE"
  | .debug => "DEBUG"
  | .info => "INFO"
  | .warn => "WARN"
  | .error => "ERROR"

def Level.severity : Level → Nat
  | .trace => 0
  | .debug => 1
  | .info => 2
  | .warn => 3
  | .error => 4

/-- The part of the program that reports an event. -/
inductive Reporter
  | program | signal | topology | prediction | metadata | token | compute | monitoring
  | cluster | nodes
deriving DecidableEq, Repr

/-- The name under which log lines show the reporter. -/
def Reporter.path : Reporter → String
  | .program => "labeler"
  | .signal => "labeler_core::prediction"
  | .topology => "labeler_core::topology"
  | .prediction => "labeler_core::predictor"
  | .metadata => "labeler_gcp::metadata"
  | .token => "labeler_gcp::auth"
  | .compute => "labeler_gcp::compute"
  | .monitoring => "labeler_gcp::monitoring"
  | .cluster => "labeler_k8s::client"
  | .nodes => "labeler_k8s::node_ops"

inductive Event.Value
  | text (s : String)
  | count (n : Nat)
  | flag (b : Bool)
deriving DecidableEq, Repr

structure Event where
  level : Level
  reporter : Reporter
  message : String
  fields : List (String × Event.Value) := []
deriving DecidableEq, Repr

end NodeLabels
