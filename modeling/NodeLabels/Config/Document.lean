import NodeLabels.Config
import NodeLabels.Text.Quoted
import NodeLabels.Text.Utf8
import NodeLabels.Yaml.Value
/-!
# Configurations as documents

A configuration is read from a YAML document that gives any of its fields, the others keeping their
defaults, and is written as a document that gives them all. Spans are written as people write them.
-/

namespace NodeLabels.Config

def span? (n : Yaml.Node) : Option Span := n.text? >>= Span.ofHuman?

def Topology.ofNode? (n : Yaml.Node) : Option Topology := do
  let [interval] ← n.fields? ["interval"] | none
  let initial : Topology := default
  return { interval := ← Yaml.Node.orElse span? initial.interval interval }

def Predictor.ofNode? (n : Yaml.Node) : Option Predictor := do
  let [projectId, labelSelector, window] ←
    n.fields? ["project_id", "label_selector", "window"] | none
  let initial : Predictor := default
  return {
    projectId := ← Yaml.Node.orElse Yaml.Node.optionalText? initial.projectId projectId
    labelSelector := ← Yaml.Node.orElse Yaml.Node.text? initial.labelSelector labelSelector
    window := ← Yaml.Node.orElse span? initial.window window }

def Cloud.ofNode? (n : Yaml.Node) : Option Cloud := do
  let [metadataUrl, computeUrl, monitoringUrl, requestTimeout] ←
    n.fields? ["metadata_url", "compute_url", "monitoring_url", "request_timeout"] | none
  let initial : Cloud := default
  return {
    metadataUrl := ← Yaml.Node.orElse Yaml.Node.text? initial.metadataUrl metadataUrl
    computeUrl := ← Yaml.Node.orElse Yaml.Node.text? initial.computeUrl computeUrl
    monitoringUrl := ← Yaml.Node.orElse Yaml.Node.text? initial.monitoringUrl monitoringUrl
    requestTimeout := ← Yaml.Node.orElse span? initial.requestTimeout requestTimeout }

def Metrics.ofNode? (n : Yaml.Node) : Option Metrics := do
  let [enabled, port] ← n.fields? ["enabled", "port"] | none
  let initial : Metrics := default
  let enabled ← Yaml.Node.orElse Yaml.Node.flag? initial.enabled enabled
  let ⟨port, port_lt⟩ ←
    Yaml.Node.orElse (Yaml.Node.natBelow? 65536) ⟨initial.port, initial.port_lt⟩ port
  return { enabled, port, port_lt }

/-- The configuration that a document gives. -/
def ofNode? (n : Yaml.Node) : Option Config := do
  let [topology, predictor, cloud, metrics, dryRun] ←
    n.fields? ["topology", "predictor", "gcp", "metrics", "dry_run"] | none
  return {
    topology := ← Yaml.Node.orElse Topology.ofNode? default topology
    predictor := ← Yaml.Node.orElse Predictor.ofNode? default predictor
    cloud := ← Yaml.Node.orElse Cloud.ofNode? default cloud
    metrics := ← Yaml.Node.orElse Metrics.ofNode? default metrics
    dryRun := ← Yaml.Node.orElse Yaml.Node.flag? false dryRun }

def toNode (c : Config) : Yaml.Node :=
  let span := fun (s : Span) => Yaml.Node.ofText s.human
  .ofFields [
    ("topology", .ofFields [("interval", span c.topology.interval)]),
    ("predictor", .ofFields [("project_id", .ofOptionalText c.predictor.projectId),
      ("label_selector", .ofText c.predictor.labelSelector),
      ("window", span c.predictor.window)]),
    ("gcp", .ofFields [("metadata_url", .ofText c.cloud.metadataUrl),
      ("compute_url", .ofText c.cloud.computeUrl),
      ("monitoring_url", .ofText c.cloud.monitoringUrl),
      ("request_timeout", span c.cloud.requestTimeout)]),
    ("metrics", .ofFields [("enabled", .ofFlag c.metrics.enabled),
      ("port", .ofNat c.metrics.port)]),
    ("dry_run", .ofFlag c.dryRun)]

/-- Why no configuration came of a file. -/
inductive LoadFault
  | unreadable (path : String)
  | malformed
deriving DecidableEq, Repr

def LoadFault.message : LoadFault → String
  | .unreadable path => s!"Failed to read config file: {Text.quote path}"
  | .malformed => "Failed to parse YAML configuration"

/-- The configuration in a text. A text without a document gives the default one. -/
def parse (text : String) : Except LoadFault Config :=
  match Yaml.Node.read? text with
  | some none => .ok default
  | some (some n) =>
    match ofNode? n with
    | some c => .ok c
    | none => .error .malformed
  | none => .error .malformed

/-- The configuration in a file with these bytes. Without bytes the file cannot be read. -/
def ofFile (path : String) (bytes : Option (List UInt8)) : Except LoadFault Config :=
  match bytes >>= Text.decode? with
  | some text => parse (String.ofList text)
  | none => .error (.unreadable path)

end NodeLabels.Config
