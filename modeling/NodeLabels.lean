import NodeLabels.Calendar.Date
import NodeLabels.Calendar.Instant
import NodeLabels.Calendar.Timestamp
import NodeLabels.Cloud.Compute
import NodeLabels.Cloud.Metadata
import NodeLabels.Cloud.Monitoring
import NodeLabels.Cloud.Request
import NodeLabels.Cloud.Token
import NodeLabels.Cluster.Client
import NodeLabels.Cluster.Fault
import NodeLabels.Cluster.Kubeconfig
import NodeLabels.Cluster.Object
import NodeLabels.Cluster.Shape
import NodeLabels.CommandLine
import NodeLabels.CommandLine.Usage
import NodeLabels.Config
import NodeLabels.Config.Document
import NodeLabels.Decimal.Shortest
import NodeLabels.Dialogue
import NodeLabels.Entries
import NodeLabels.Event
import NodeLabels.Fault
import NodeLabels.Http
import NodeLabels.Http.Uri
import NodeLabels.Http.Wire
import NodeLabels.InMemory.Cloud
import NodeLabels.InMemory.Computer
import NodeLabels.InMemory.Metadata
import NodeLabels.InMemory.Nodes
import NodeLabels.InMemory.Server
import NodeLabels.InMemory.Site
import NodeLabels.Json.Basic
import NodeLabels.Json.Double
import NodeLabels.Json.Merge
import NodeLabels.Json.Parser
import NodeLabels.Json.Reader
import NodeLabels.Label.Key
import NodeLabels.Label.Map
import NodeLabels.Log.Filter
import NodeLabels.Log.Line
import NodeLabels.Machine
import NodeLabels.Main
import NodeLabels.Metrics
import NodeLabels.Node
import NodeLabels.Placement
import NodeLabels.Prediction.OverHttp
import NodeLabels.Prediction.Pass
import NodeLabels.Program
import NodeLabels.Proofs.Calendar.Date
import NodeLabels.Proofs.Calendar.Instant
import NodeLabels.Proofs.Calendar.Position
import NodeLabels.Proofs.Calendar.Timestamp
import NodeLabels.Proofs.Cloud.Attempt
import NodeLabels.Proofs.Cloud.Authorized
import NodeLabels.Proofs.Cloud.Course
import NodeLabels.Proofs.Cloud.EarlyStop
import NodeLabels.Proofs.Cloud.Failure
import NodeLabels.Proofs.Cloud.Fetch
import NodeLabels.Proofs.Cloud.Gets
import NodeLabels.Proofs.Cloud.InstanceId
import NodeLabels.Proofs.Cloud.Interval
import NodeLabels.Proofs.Cloud.Lookup
import NodeLabels.Proofs.Cloud.Page
import NodeLabels.Proofs.Cloud.Paging
import NodeLabels.Proofs.Cloud.Parameters
import NodeLabels.Proofs.Cloud.Room
import NodeLabels.Proofs.Cloud.Serves
import NodeLabels.Proofs.Cloud.Slashes
import NodeLabels.Proofs.Cluster.Frame
import NodeLabels.Proofs.Cluster.Interleaving
import NodeLabels.Proofs.Cluster.Operator
import NodeLabels.Proofs.Cluster.Patch
import NodeLabels.Proofs.Cluster.Requests
import NodeLabels.Proofs.Cluster.Store
import NodeLabels.Proofs.Coexistence
import NodeLabels.Proofs.CommandLine
import NodeLabels.Proofs.Config
import NodeLabels.Proofs.Config.Fields
import NodeLabels.Proofs.Config.Overlay
import NodeLabels.Proofs.Config.Written
import NodeLabels.Proofs.Decimal.Nearest
import NodeLabels.Proofs.Dialogue.Exchange
import NodeLabels.Proofs.Dialogue.Within
import NodeLabels.Proofs.DryRun
import NodeLabels.Proofs.Http.Steps
import NodeLabels.Proofs.Http.Uri
import NodeLabels.Proofs.Json.Held
import NodeLabels.Proofs.Json.Record
import NodeLabels.Proofs.Json.Same
import NodeLabels.Proofs.Json.Written
import NodeLabels.Proofs.Machine
import NodeLabels.Proofs.Metrics
import NodeLabels.Proofs.Node
import NodeLabels.Proofs.Placement
import NodeLabels.Proofs.Prediction.Account
import NodeLabels.Proofs.Prediction.Answers
import NodeLabels.Proofs.Prediction.Blocks
import NodeLabels.Proofs.Prediction.DryRun
import NodeLabels.Proofs.Prediction.Failure
import NodeLabels.Proofs.Prediction.First
import NodeLabels.Proofs.Prediction.Isolation
import NodeLabels.Proofs.Prediction.Node
import NodeLabels.Proofs.Prediction.Parts
import NodeLabels.Proofs.Prediction.Patches
import NodeLabels.Proofs.Prediction.Repeat
import NodeLabels.Proofs.Prediction.Sends
import NodeLabels.Proofs.Prediction.Tally
import NodeLabels.Proofs.Prediction.Windows
import NodeLabels.Proofs.Prediction.Worked
import NodeLabels.Proofs.Program.Exit
import NodeLabels.Proofs.Program.Project
import NodeLabels.Proofs.Program.Stages
import NodeLabels.Proofs.Signal
import NodeLabels.Proofs.Span.Human
import NodeLabels.Proofs.Text.Blank
import NodeLabels.Proofs.Text.Digits
import NodeLabels.Proofs.Text.Split
import NodeLabels.Proofs.Text.Utf8
import NodeLabels.Proofs.Topology.Answers
import NodeLabels.Proofs.Topology.Cadence
import NodeLabels.Proofs.Topology.Clocked
import NodeLabels.Proofs.Topology.Clockwork
import NodeLabels.Proofs.Topology.Cycle
import NodeLabels.Proofs.Topology.DryRun
import NodeLabels.Proofs.Topology.Patches
import NodeLabels.Proofs.Topology.Schedule
import NodeLabels.Proofs.Topology.Script
import NodeLabels.Proofs.Topology.Shutdown
import NodeLabels.Proofs.Url.Clean
import NodeLabels.Proofs.Url.Escape
import NodeLabels.Proofs.Url.Form
import NodeLabels.Proofs.Url.Join
import NodeLabels.Proofs.Url.Path
import NodeLabels.Proofs.Url.Segments
import NodeLabels.Proofs.Window
import NodeLabels.Proofs.Yaml.Fields
import NodeLabels.Proofs.Yaml.Written
import NodeLabels.Series
import NodeLabels.Signal
import NodeLabels.Span
import NodeLabels.Span.Human
import NodeLabels.Text.Base64
import NodeLabels.Text.Blank
import NodeLabels.Text.Digits
import NodeLabels.Text.Hidden
import NodeLabels.Text.Quoted
import NodeLabels.Text.Split
import NodeLabels.Text.Utf8
import NodeLabels.Topology.Cadence
import NodeLabels.Topology.Cycle
import NodeLabels.Topology.OverHttp
import NodeLabels.Topology.Race
import NodeLabels.Url
import NodeLabels.Url.Form
import NodeLabels.Url.Host
import NodeLabels.Url.Percent
import NodeLabels.Url.Punycode
import NodeLabels.Window
import NodeLabels.Yaml.Cursor
import NodeLabels.Yaml.Node
import NodeLabels.Yaml.Scalar
import NodeLabels.Yaml.Token
import NodeLabels.Yaml.Value
