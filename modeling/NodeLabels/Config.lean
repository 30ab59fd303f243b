import NodeLabels.Label.Key
import NodeLabels.Span.Human
import NodeLabels.Text.Blank
/-!
# Configuration

The settings of the program, their defaults, and the checks that they have to pass.
-/

namespace NodeLabels

structure Config.Topology where
  /-- The pause between two cycles. -/
  interval : Span := .seconds 600
deriving DecidableEq, Repr

instance : Inhabited Config.Topology := ⟨{}⟩

structure Config.Predictor where
  projectId : Option String := none
  labelSelector : String := Label.gpuSelector
  window : Span := .seconds 900
deriving DecidableEq, Repr

instance : Inhabited Config.Predictor := ⟨{}⟩

/-- Where the cloud services are, and how long a request may take. -/
structure Config.Cloud where
  metadataUrl : String := "http://metadata.google.internal"
  computeUrl : String := "https://compute.googleapis.com"
  monitoringUrl : String := "https://monitoring.googleapis.com"
  requestTimeout : Span := .seconds 10
deriving DecidableEq, Repr

instance : Inhabited Config.Cloud := ⟨{}⟩

structure Config.Metrics where
  enabled : Bool := true
  port : Nat := 9488
  port_lt : port < 65536 := by decide
deriving DecidableEq, Repr

instance : Inhabited Config.Metrics := ⟨{}⟩

structure Config where
  topology : Config.Topology := {}
  predictor : Config.Predictor := {}
  cloud : Config.Cloud := {}
  metrics : Config.Metrics := {}
  dryRun : Bool := false
deriving DecidableEq, Repr

instance : Inhabited Config := ⟨{}⟩

namespace Config

/-- The first rule that a configuration breaks. -/
inductive Fault
  | zeroInterval | zeroWindow | blankSelector | zeroTimeout | zeroPort
deriving DecidableEq, Repr

def Fault.message : Fault → String
  | .zeroInterval => "topology.interval must be > 0"
  | .zeroWindow => "predictor.window must be > 0"
  | .blankSelector => "predictor.label_selector must not be empty"
  | .zeroTimeout => "gcp.request_timeout must be > 0"
  | .zeroPort => "metrics.port must be > 0 when metrics are enabled"

def fault? (c : Config) : Option Fault :=
  if c.topology.interval.isZero then some .zeroInterval
  else if c.predictor.window.isZero then some .zeroWindow
  else if Text.isAllBlank c.predictor.labelSelector then some .blankSelector
  else if c.cloud.requestTimeout.isZero then some .zeroTimeout
  else if c.metrics.enabled ∧ c.metrics.port = 0 then some .zeroPort
  else none

end Config

end NodeLabels
