import NodeLabels.Proofs.Config.Overlay
import NodeLabels.Proofs.Span.Human
import NodeLabels.Proofs.Yaml.Written
/-!
# Configurations are read as they were written

The document that a configuration is written as gives every setting, each as a value that is read
back as the same one (`read?_write`). So the document comes to the configuration itself, with every
span exact to the nanosecond.
-/

namespace NodeLabels.Config

variable {α : Type} {c : Config} {style : String → Yaml.Style}

/-- The value of a setting as it stands in a document. -/
def Field.write : Field α → α → Yaml.Node
  | .interval | .window | .requestTimeout => fun s => .ofText s.human
  | .projectId => .ofOptionalText
  | .labelSelector | .metadataUrl | .computeUrl | .monitoringUrl => .ofText
  | .enabled | .dryRun => .ofFlag
  | .port => fun port => .ofNat port

theorem span?_human (s : Span) : span? ((Yaml.Node.ofText s.human).restyle style) = some s := by
  rw [span?, Yaml.Node.text?_restyle_ofText, Option.bind_eq_bind, Option.bind_some,
    Span.ofHuman?_human]

theorem Field.read?_write (h : Yaml.Node.Distinguishes style) (f : Field α) (a : α) :
    f.read? ((f.write a).restyle style) = some a := by
  cases f with
  | interval | window | requestTimeout => exact span?_human a
  | projectId => exact Yaml.Node.optionalText?_ofOptionalText h a
  | labelSelector | metadataUrl | computeUrl | monitoringUrl =>
    exact Yaml.Node.text?_restyle_ofText style a
  | enabled | dryRun => exact Yaml.Node.flag?_ofFlag style a
  | port => exact Yaml.Node.natBelow?_ofNat style a.2

/-! ## Where the settings stand -/

/-- What is written for a part. -/
def Part.entries (c : Config) : Part → List (String × Yaml.Node)
  | .topology => [("interval", Field.interval.write c.topology.interval)]
  | .predictor => [("project_id", Field.projectId.write c.predictor.projectId),
      ("label_selector", Field.labelSelector.write c.predictor.labelSelector),
      ("window", Field.window.write c.predictor.window)]
  | .cloud => [("metadata_url", Field.metadataUrl.write c.cloud.metadataUrl),
      ("compute_url", Field.computeUrl.write c.cloud.computeUrl),
      ("monitoring_url", Field.monitoringUrl.write c.cloud.monitoringUrl),
      ("request_timeout", Field.requestTimeout.write c.cloud.requestTimeout)]
  | .metrics => [("enabled", Field.enabled.write c.metrics.enabled),
      ("port", Field.port.write (Field.port.get c))]

def entries (c : Config) : List (String × Yaml.Node) :=
  [("topology", .ofFields (Part.topology.entries c)),
    ("predictor", .ofFields (Part.predictor.entries c)),
    ("gcp", .ofFields (Part.cloud.entries c)), ("metrics", .ofFields (Part.metrics.entries c)),
    ("dry_run", Field.dryRun.write c.dryRun)]

theorem toNode_eq_ofFields (c : Config) : c.toNode = .ofFields c.entries := rfl

theorem Part.mem_entries (part : Part) : (part.key, .ofFields (part.entries c)) ∈ c.entries := by
  cases part <;> simp [Config.entries, Part.key]

theorem Field.mem_entries_part {f : Field α} {part : Part} (h : f.part? = some part) :
    (f.key, f.write (f.get c)) ∈ part.entries c := by
  cases f <;> cases h <;> simp [Part.entries, key, get]

theorem Field.mem_entries {f : Field α} (h : f.part? = none) :
    (f.key, f.write (f.get c)) ∈ c.entries := by
  cases f <;> cases h
  simp [Config.entries, key, get]

theorem Field.given_toNode (style : String → Yaml.Style) (f : Field α) :
    f.Given (c.toNode.restyle style) ((f.write (f.get c)).restyle style) := by
  rw [toNode_eq_ofFields]
  cases hpart : f.part? with
  | none =>
    rw [given_of_no_part hpart]
    exact Yaml.Node.holds_restyle_ofFields.2 ⟨_, mem_entries hpart, rfl, rfl⟩
  | some part =>
    rw [given_of_part hpart]
    exact ⟨_, Yaml.Node.holds_restyle_ofFields.2 ⟨_, part.mem_entries, rfl, rfl⟩,
      Yaml.Node.holds_restyle_ofFields.2 ⟨_, mem_entries_part hpart, rfl, rfl⟩⟩

theorem isDocument_toNode : IsDocument (c.toNode.restyle style) := by
  have hkeys : (c.entries.map Prod.fst).Nodup := show keys.Nodup by decide
  have hpartKeys (part : Part) : ((part.entries c).map Prod.fst).Nodup := by
    cases part
    case topology => exact show Part.topology.keys.Nodup by decide
    case predictor => exact show Part.predictor.keys.Nodup by decide
    case cloud => exact show Part.cloud.keys.Nodup by decide
    case metrics => exact show Part.metrics.keys.Nodup by decide
  have hrecord : (c.toNode.restyle style).IsRecord keys := Yaml.Node.isRecord_restyle_ofFields hkeys
  refine ⟨hrecord, fun part m hm => ?_⟩
  have hpart : (c.toNode.restyle style).Holds part.key
      ((Yaml.Node.ofFields (part.entries c)).restyle style) :=
    Yaml.Node.holds_restyle_ofFields.2 ⟨_, part.mem_entries, rfl, rfl⟩
  rw [hrecord.holds_unique part.key_mem_keys hm hpart]
  exact Yaml.Node.isRecord_restyle_ofFields (hpartKeys part)

theorem ofNode?_toNode (h : Yaml.Node.Distinguishes style) :
    ofNode? (c.toNode.restyle style) = some c := by
  refine (ofNode?_eq_some_iff isDocument_toNode).2 fun f => ?_
  rw [(Field.value?_eq_some_iff isDocument_toNode).2 (f.given_toNode style)]
  exact f.read?_write h (f.get c)

/-- A configuration is read from the document that it is written as, in whatever styles its texts
are put down. Its spans stand there in units and come back to the nanosecond, and what is read
breaks the same rule, if any. -/
theorem written_config_read_back (c : Config) :
    ofNode? c.toNode = some c ∧
    (∀ style, Yaml.Node.Distinguishes style → ofNode? (c.toNode.restyle style) = some c ∧
      ∀ text, Yaml.Node.read? text = some (some (c.toNode.restyle style)) → parse text = .ok c) ∧
    (∀ f ∈ [Field.interval, .window, .requestTimeout],
      f.Given c.toNode (.ofText (f.get c).human) ∧
      Span.ofHuman? (f.get c).human = some (f.get c)) ∧
    (ofNode? c.toNode).map fault? = some c.fault? := by
  have hstyled (style : String → Yaml.Style) (h : Yaml.Node.Distinguishes style) :=
    ofNode?_toNode (c := c) h
  have hquoted : ofNode? c.toNode = some c := by
    have := hstyled (fun _ => .doubleQuoted) nofun
    rwa [Yaml.Node.restyle_doubleQuoted] at this
  have hgiven {α : Type} (f : Field α) : f.Given c.toNode (f.write (f.get c)) := by
    have := Field.given_toNode (c := c) (fun _ => .doubleQuoted) f
    rwa [Yaml.Node.restyle_doubleQuoted, Yaml.Node.restyle_doubleQuoted] at this
  refine ⟨hquoted, fun style h => ⟨hstyled style h, fun text htext => ?_⟩, fun f hf => ⟨?_, ?_⟩, ?_⟩
  · rw [parse_of_read? htext, hstyled style h]
    rfl
  · simp only [List.mem_cons, List.not_mem_nil, or_false] at hf
    obtain rfl | rfl | rfl := hf
    · exact hgiven .interval
    · exact hgiven .window
    · exact hgiven .requestTimeout
  · exact Span.ofHuman?_human _
  · rw [hquoted, Option.map_some]

/-- Texts stand plain wherever they can. -/
def sparingStyle (s : String) : Yaml.Style :=
  if s = "" ∨ Yaml.Node.isNullWord s then .singleQuoted else .plain

theorem distinguishes_sparingStyle : Yaml.Node.Distinguishes sparingStyle := by
  intro s hs
  unfold sparingStyle at hs
  split at hs
  · cases hs
  · next h => simpa using h

/-- A project that is called like no project, and spans down to the nanosecond. -/
def oddConfig : Config :=
  { (default : Config) with
    topology := { interval := { secs := 599, nanos := 999999999 } }
    predictor :=
      { projectId := some "null"
        window := { secs := 93784, nanos := 123456789 } }
    cloud := { requestTimeout := { secs := 9, nanos := 7 } } }

/-- The project ID has to be quoted, and so it is. -/
theorem written_config_read_back_sparing : Yaml.Node.Distinguishes sparingStyle ∧
    sparingStyle "null" = .singleQuoted ∧
    oddConfig.predictor.window.human = "1day 2h 3m 4s 123ms 456us 789ns" ∧
    ofNode? (oddConfig.toNode.restyle sparingStyle) = some oddConfig ∧
    Span.ofHuman? oddConfig.predictor.window.human = some oddConfig.predictor.window := by
  obtain ⟨-, hstyled, hspans, -⟩ := written_config_read_back oddConfig
  exact ⟨distinguishes_sparingStyle, rfl, by decide +kernel,
    (hstyled sparingStyle distinguishes_sparingStyle).1, (hspans .window (by simp)).2⟩

end NodeLabels.Config
