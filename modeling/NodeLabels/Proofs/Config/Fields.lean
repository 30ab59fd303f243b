import NodeLabels.Config.Document
import NodeLabels.Proofs.Yaml.Fields
/-!
# The fields of a configuration

The settings of a configuration one by one, each with the place it has in a document, how its value
is read there, and where it is found in the configuration. A document is read field by field
(`ofNode?_eq_some_iff`): a setting may be left out alone or with the part it belongs to, and the
other settings have no say in it.
-/

namespace NodeLabels.Config

/-- The parts of a configuration that are mappings of their own. -/
inductive Part
  | topology | predictor | cloud | metrics
deriving DecidableEq

def Part.key : Part → String
  | .topology => "topology"
  | .predictor => "predictor"
  | .cloud => "gcp"
  | .metrics => "metrics"

/-- The keys that are known in a part. -/
def Part.keys : Part → List String
  | .topology => ["interval"]
  | .predictor => ["project_id", "label_selector", "window"]
  | .cloud => ["metadata_url", "compute_url", "monitoring_url", "request_timeout"]
  | .metrics => ["enabled", "port"]

/-- The keys that are known outside the parts. -/
def keys : List String := ["topology", "predictor", "gcp", "metrics", "dry_run"]

/-- The settings, each with the type of its values. -/
inductive Field : Type → Type
  | interval : Field Span
  | projectId : Field (Option String)
  | labelSelector : Field String
  | window : Field Span
  | metadataUrl : Field String
  | computeUrl : Field String
  | monitoringUrl : Field String
  | requestTimeout : Field Span
  | enabled : Field Bool
  | port : Field { n : Nat // n < 65536 }
  | dryRun : Field Bool

namespace Field

variable {α : Type}

def part? : Field α → Option Part
  | .interval => some .topology
  | .projectId | .labelSelector | .window => some .predictor
  | .metadataUrl | .computeUrl | .monitoringUrl | .requestTimeout => some .cloud
  | .enabled | .port => some .metrics
  | .dryRun => none

def key : Field α → String
  | .interval => "interval"
  | .projectId => "project_id"
  | .labelSelector => "label_selector"
  | .window => "window"
  | .metadataUrl => "metadata_url"
  | .computeUrl => "compute_url"
  | .monitoringUrl => "monitoring_url"
  | .requestTimeout => "request_timeout"
  | .enabled => "enabled"
  | .port => "port"
  | .dryRun => "dry_run"

/-- The value that a node is acceptable for. -/
def read? : Field α → Yaml.Node → Option α
  | .interval | .window | .requestTimeout => span?
  | .projectId => Yaml.Node.optionalText?
  | .labelSelector | .metadataUrl | .computeUrl | .monitoringUrl => Yaml.Node.text?
  | .enabled | .dryRun => Yaml.Node.flag?
  | .port => Yaml.Node.natBelow? 65536

def get (c : Config) : Field α → α
  | .interval => c.topology.interval
  | .projectId => c.predictor.projectId
  | .labelSelector => c.predictor.labelSelector
  | .window => c.predictor.window
  | .metadataUrl => c.cloud.metadataUrl
  | .computeUrl => c.cloud.computeUrl
  | .monitoringUrl => c.cloud.monitoringUrl
  | .requestTimeout => c.cloud.requestTimeout
  | .enabled => c.metrics.enabled
  | .port => ⟨c.metrics.port, c.metrics.port_lt⟩
  | .dryRun => c.dryRun

/-- The node that is read for the setting, alone or in its part of the document. -/
def value? (n : Yaml.Node) (f : Field α) : Option Yaml.Node :=
  match f.part? with
  | none => n.value? f.key
  | some part => n.value? part.key >>= fun m => m.value? f.key

end Field

/-- A mapping with texts for keys, in which no known key comes twice, and whose parts are such
mappings too. -/
structure IsDocument (n : Yaml.Node) : Prop where
  isRecord : n.IsRecord keys
  parts : ∀ (part : Part) (m : Yaml.Node), n.Holds part.key m → m.IsRecord part.keys

/-! ## Reading field by field -/

section

variable {part? : Option Yaml.Node}

theorem topology_eq_some_iff (h : ∀ m ∈ part?, m.IsRecord Part.topology.keys) {t : Topology} :
    Yaml.Node.orElse Topology.ofNode? default part? = some t ↔
      Yaml.Node.orElse span? (default : Topology).interval (part? >>= Yaml.Node.value? "interval") =
        some t.interval := by
  obtain ⟨interval⟩ := t
  cases part? with
  | none => simp [Yaml.Node.orElse, default]
  | some m =>
    have hfields : m.fields? ["interval"] = some [m.value? "interval"] :=
      Yaml.Node.fields?_of_isRecord (h m rfl)
    simp [Yaml.Node.orElse, Topology.ofNode?, hfields, Option.bind_eq_some_iff]

theorem predictor_eq_some_iff (h : ∀ m ∈ part?, m.IsRecord Part.predictor.keys) {p : Predictor} :
    Yaml.Node.orElse Predictor.ofNode? default part? = some p ↔
      Yaml.Node.orElse Yaml.Node.optionalText? (default : Predictor).projectId
        (part? >>= Yaml.Node.value? "project_id") = some p.projectId ∧
      Yaml.Node.orElse Yaml.Node.text? (default : Predictor).labelSelector
        (part? >>= Yaml.Node.value? "label_selector") = some p.labelSelector ∧
      Yaml.Node.orElse span? (default : Predictor).window (part? >>= Yaml.Node.value? "window") =
        some p.window := by
  obtain ⟨projectId, labelSelector, window⟩ := p
  cases part? with
  | none => simp [Yaml.Node.orElse, default]
  | some m =>
    have hfields : m.fields? ["project_id", "label_selector", "window"] = some
        [m.value? "project_id", m.value? "label_selector", m.value? "window"] :=
      Yaml.Node.fields?_of_isRecord (h m rfl)
    simp only [Yaml.Node.orElse, Predictor.ofNode?, hfields, Option.bind_eq_bind, Option.bind_some,
      Option.bind_eq_some_iff]
    grind

theorem cloud_eq_some_iff (h : ∀ m ∈ part?, m.IsRecord Part.cloud.keys) {c : Cloud} :
    Yaml.Node.orElse Cloud.ofNode? default part? = some c ↔
      Yaml.Node.orElse Yaml.Node.text? (default : Cloud).metadataUrl
        (part? >>= Yaml.Node.value? "metadata_url") = some c.metadataUrl ∧
      Yaml.Node.orElse Yaml.Node.text? (default : Cloud).computeUrl
        (part? >>= Yaml.Node.value? "compute_url") = some c.computeUrl ∧
      Yaml.Node.orElse Yaml.Node.text? (default : Cloud).monitoringUrl
        (part? >>= Yaml.Node.value? "monitoring_url") = some c.monitoringUrl ∧
      Yaml.Node.orElse span? (default : Cloud).requestTimeout
        (part? >>= Yaml.Node.value? "request_timeout") = some c.requestTimeout := by
  obtain ⟨metadataUrl, computeUrl, monitoringUrl, requestTimeout⟩ := c
  cases part? with
  | none => simp [Yaml.Node.orElse, default]
  | some m =>
    have hfields : m.fields? ["metadata_url", "compute_url", "monitoring_url", "request_timeout"] =
        some [m.value? "metadata_url", m.value? "compute_url", m.value? "monitoring_url",
          m.value? "request_timeout"] :=
      Yaml.Node.fields?_of_isRecord (h m rfl)
    simp only [Yaml.Node.orElse, Cloud.ofNode?, hfields, Option.bind_eq_bind, Option.bind_some,
      Option.bind_eq_some_iff]
    grind

theorem metrics_eq_some_iff (h : ∀ m ∈ part?, m.IsRecord Part.metrics.keys) {c : Metrics} :
    Yaml.Node.orElse Metrics.ofNode? default part? = some c ↔
      Yaml.Node.orElse Yaml.Node.flag? (default : Metrics).enabled
        (part? >>= Yaml.Node.value? "enabled") = some c.enabled ∧
      Yaml.Node.orElse (Yaml.Node.natBelow? 65536)
        ⟨(default : Metrics).port, (default : Metrics).port_lt⟩
        (part? >>= Yaml.Node.value? "port") = some ⟨c.port, c.port_lt⟩ := by
  obtain ⟨enabled, port, port_lt⟩ := c
  cases part? with
  | none => simp [Yaml.Node.orElse, default]
  | some m =>
    have hfields : m.fields? ["enabled", "port"] = some [m.value? "enabled", m.value? "port"] :=
      Yaml.Node.fields?_of_isRecord (h m rfl)
    simp only [Yaml.Node.orElse, Metrics.ofNode?, hfields, Option.bind_eq_bind, Option.bind_some,
      Option.bind_eq_some_iff]
    constructor
    · rintro ⟨_, henabled, ⟨_, _⟩, hport, heq⟩
      cases heq
      exact ⟨henabled, hport⟩
    · rintro ⟨henabled, hport⟩
      exact ⟨_, henabled, _, hport, rfl⟩

end

variable {n : Yaml.Node} {c : Config}

theorem ofNode?_eq_some_iff (h : IsDocument n) : ofNode? n = some c ↔
    ∀ {α : Type} (f : Field α),
      Yaml.Node.orElse f.read? (f.get default) (f.value? n) = some (f.get c) := by
  have hfields : n.fields? ["topology", "predictor", "gcp", "metrics", "dry_run"] =
      some [n.value? "topology", n.value? "predictor", n.value? "gcp", n.value? "metrics",
        n.value? "dry_run"] := Yaml.Node.fields?_of_isRecord h.isRecord
  have hparts (part : Part) : ∀ m ∈ n.value? part.key, m.IsRecord part.keys := fun m hm =>
    h.parts part m ((Yaml.Node.value?_eq_some_iff h.isRecord (by cases part <;> decide)).1 hm)
  have htopology : ∀ m ∈ n.value? "topology", m.IsRecord Part.topology.keys := hparts .topology
  have hpredictor : ∀ m ∈ n.value? "predictor", m.IsRecord Part.predictor.keys := hparts .predictor
  have hcloud : ∀ m ∈ n.value? "gcp", m.IsRecord Part.cloud.keys := hparts .cloud
  have hmetrics : ∀ m ∈ n.value? "metrics", m.IsRecord Part.metrics.keys := hparts .metrics
  obtain ⟨topology, predictor, cloud, metrics, dryRun⟩ := c
  have hread : ofNode? n = some ⟨topology, predictor, cloud, metrics, dryRun⟩ ↔
      Yaml.Node.orElse Topology.ofNode? default (n.value? "topology") = some topology ∧
      Yaml.Node.orElse Predictor.ofNode? default (n.value? "predictor") = some predictor ∧
      Yaml.Node.orElse Cloud.ofNode? default (n.value? "gcp") = some cloud ∧
      Yaml.Node.orElse Metrics.ofNode? default (n.value? "metrics") = some metrics ∧
      Yaml.Node.orElse Yaml.Node.flag? false (n.value? "dry_run") = some dryRun := by
    simp only [ofNode?, hfields, Option.bind_eq_bind, Option.bind_some, Option.bind_eq_some_iff]
    grind
  rw [hread, topology_eq_some_iff htopology, predictor_eq_some_iff hpredictor,
    cloud_eq_some_iff hcloud, metrics_eq_some_iff hmetrics]
  constructor
  · rintro ⟨hinterval, ⟨hproject, hselector, hwindow⟩, ⟨hmetadata, hcompute, hmonitoring, htimeout⟩,
      ⟨henabled, hport⟩, hdryRun⟩ α f
    cases f <;> assumption
  · intro hall
    exact ⟨hall .interval, ⟨hall .projectId, hall .labelSelector, hall .window⟩,
      ⟨hall .metadataUrl, hall .computeUrl, hall .monitoringUrl, hall .requestTimeout⟩,
      ⟨hall .enabled, hall .port⟩, hall .dryRun⟩

end NodeLabels.Config
