import NodeLabels.CommandLine
import NodeLabels.Config.Document
import NodeLabels.Log.Filter
import NodeLabels.Prediction.OverHttp
import NodeLabels.Topology.OverHttp
/-!
# The program

What the program does from its arguments to its exit status, as one dialogue with the machine that
it runs on. It reads its configuration, connects to the cluster and runs the job that the command
line names.
-/

namespace NodeLabels.Program

/-- What there is at a path. -/
inductive File
  | absent
  | unreadable
  | content (bytes : List UInt8)

def File.bytes? : File → Option (List UInt8)
  | .content bytes => some bytes
  | _ => none

/-- What the program finds around it when it starts. -/
structure Surroundings where
  environment : CommandLine.Environment := []
  file : String → File := fun _ => .absent
  /-- The API server of the cluster, if one is configured. -/
  cluster : Option String := none

def version : String := "0.1.0"

/-! ## Logs -/

structure Logging where
  filter : Log.Filter
  json : Bool
  /-- What is said about directives that were left out. -/
  complaints : List String

def filterVariable : String := "RUST_LOG"

/-- A well-formed filter in the environment comes first, then the log level of the command line. -/
def Logging.of (env : CommandLine.Environment) (line : CommandLine) : Logging :=
  let inEnvironment := (env.get? filterVariable).bind fun text => (Log.Filter.parse text).toOption
  match inEnvironment with
  | some filter => { filter, json := line.logJson, complaints := [] }
  | none =>
    let (filter, complaints) := Log.Filter.parseLossy line.logLevel
    { filter, json := line.logJson, complaints }

def event (level : Level) (message : String) (fields : List (String × Event.Value) := []) : Event :=
  { level, reporter := .program, message, fields }

/-! ## Failures -/

/-- Why the program fails. -/
inductive Fault
  | config (path : String) (fault : Config.LoadFault)
  | invalidConfig (fault : Config.Fault)
  | noCluster (failure : Failure)
  | noProject (fault : SourceFault)
  | cycle (fault : LabelFault)

/-- What is said about a fault, and then about its causes. -/
def Fault.chain : Fault → List String
  | .config path fault => [s!"Failed to load config from {Text.quote path}", fault.message]
  | .invalidConfig fault => ["Invalid configuration", fault.message]
  | .noCluster failure => failure.chain
  | .noProject fault =>
    ["Project ID is unknown; set --project-id or GOOGLE_CLOUD_PROJECT", fault.message]
  | .cycle fault => "Topology update cycle failed" :: fault.chain

/-- The causes of a fault in lines of their own, with numbers if there are several. -/
def causeLines : List String → List String
  | [] => []
  | [cause] => ["", "Caused by:", "    " ++ cause]
  | causes => "" :: "Caused by:" :: causes.zipIdx.map fun (cause, n) => s!"    {n}: {cause}"

def Fault.lines (f : Fault) : List String :=
  ("Error: " ++ f.chain.headD "") :: causeLines f.chain.tail

structure Exit where
  code : Nat
  /-- What is said on the way out, line by line. -/
  lines : List String := []
deriving DecidableEq, Repr

/-! ## Preparation -/

def missingConfigEvent (path : String) : Event :=
  event .warn "Config file not found, using defaults" [("path", .text (Text.quote path))]

/-- Reads the configuration at a path, or takes the default one if there is none. -/
def loadConfig (around : Surroundings) (path : String) :
    Dialogue Machine.port (Except Fault Config) := do
  match around.file path with
  | .absent =>
    .tell (missingConfigEvent path)
    return .ok default
  | file => return (Config.ofFile path file.bytes?).mapError (.config path)

/-- The configuration with what the command line adds to it, if it passes the checks. -/
def settle (config : Config) (line : CommandLine) : Except Fault Config :=
  let config := { config with dryRun := config.dryRun || line.dryRun }
  match config.fault? with
  | some fault => .error (.invalidConfig fault)
  | none => .ok config

def metadata (config : Config) : Cloud.Metadata := { base := config.cloud.metadataUrl }

def connect (around : Surroundings) : Dialogue Machine.port (Except Fault Cluster.Client) := do
  match Cluster.Client.connect around.cluster with
  | .error failure => return .error (.noCluster failure)
  | .ok client =>
    .tell Cluster.Client.connectedEvent
    return .ok client

/-! ## The topology job -/

def topologyServices (config : Config) (client : Cluster.Client) : Topology.Services :=
  { metadata := metadata config, nodes := { client, dryRun := config.dryRun }
    limit := some config.cloud.requestTimeout }

/-- Serves the metrics if the configuration says so. A port that is not free is no reason to end. -/
def offerMetrics (config : Config) : Dialogue Machine.port Unit := do
  if config.metrics.enabled then
    match ← Machine.serveMetrics config.metrics.port with
    | .ok () =>
      .tell (event .info "Metrics server listening" [("port", .count config.metrics.port)])
    | .error why => .tell (event .error "Metrics server failed" [("error", .text why)])

/-- Runs one cycle, or cycles until the process is asked to end. -/
def runTopology (patience : Nat) (around : Surroundings) (config : Config) (once : Bool) :
    Dialogue Machine.port (Except Fault Unit) := do
  match ← connect around with
  | .error fault => return .error fault
  | .ok client =>
    let services := topologyServices config client
    if once then
      .tell (event .info "Running single topology cycle (--once mode)")
      match ← Topology.update.translate services.answer with
      | .error fault => return .error (.cycle fault)
      | .ok _ => return .ok ()
    else
      offerMetrics config
      (Topology.watch patience config.topology.interval).translate services.answer
      .tell (event .info "Topology labeler shutdown complete")
      return .ok ()

/-! ## The prediction job -/

/-- The project from the command line, from the configuration, or from the metadata server. -/
def projectOf (given : Option String) (config : Config) :
    Dialogue Machine.port (Except Fault String) := do
  match given.or config.predictor.projectId with
  | some project => return .ok project
  | none =>
    let answer ←
      Machine.exchange (some config.cloud.requestTimeout) (metadata config).projectId
    return answer.mapError .noProject

def predictionServices (config : Config) (client : Cluster.Client) (tokens : Cloud.TokenSource) :
    Prediction.Services :=
  { compute := { base := config.cloud.computeUrl, tokens }
    monitoring := { base := config.cloud.monitoringUrl, tokens }
    nodes := { client, dryRun := config.dryRun }
    limit := some config.cloud.requestTimeout }

def settings (config : Config) (project : String) : Prediction.Settings :=
  { project, selector := config.predictor.labelSelector, window := config.predictor.window }

def tokenSource (around : Surroundings) (config : Config) : Cloud.TokenSource :=
  .ofEnvironment (around.environment.get? Cloud.TokenSource.environmentName) (metadata config)

/-- Runs one pass for a project. A pass that is aborted is reported, and no failure of the
program. -/
def predictFor (patience : Nat) (around : Surroundings) (config : Config) (project : String) :
    Dialogue Machine.port (Except Fault Unit) := do
  .tell (event .info "Using project" [("project", .text project)])
  match ← connect around with
  | .error fault => return .error fault
  | .ok client =>
    .tell (event .info "Kubernetes client initialized")
    let tokens := tokenSource around config
    .tellAll tokens.events
    .tell (event .info "GCP clients initialized")
    let services := predictionServices config client tokens
    let summary ←
      (Prediction.passOrReport (settings config project)).translate (services.answer patience)
    if summary.isSome then .tell (event .info "Prediction labeling finished")
    return .ok ()

/-- Runs one pass for the project that is found. -/
def runPrediction (patience : Nat) (around : Surroundings) (config : Config)
    (given : Option String) : Dialogue Machine.port (Except Fault Unit) := do
  match ← projectOf given config with
  | .error fault => return .error fault
  | .ok project => predictFor patience around config project

/-! ## From the arguments to the exit -/

/-- Runs the job that the command line names. -/
def work (patience : Nat) (around : Surroundings) (line : CommandLine) :
    Dialogue Machine.port (Except Fault Unit) := do
  .tell (event .info "Node labeler starting" [("version", .text version)])
  match ← loadConfig around line.config with
  | .error fault => return .error fault
  | .ok config =>
    match settle config line with
    | .error fault => return .error fault
    | .ok config =>
      .tell (event .info "Configuration loaded" [("dry_run", .flag config.dryRun)])
      match line.command with
      | .topology once => runTopology patience around config once
      | .predict given => runPrediction patience around config given

def exitOf : Except Fault Unit → Exit
  | .ok () => { code := 0 }
  | .error fault => { code := 1, lines := fault.lines }

/-- The whole program. The arguments do not contain its own name. In a query at most `patience`
pages are asked for, and at most so many cycles are run. -/
def run (patience : Nat) (around : Surroundings) (args : List String) :
    Dialogue Machine.port Exit := do
  match CommandLine.parse around.environment args with
  | .error refusal => return { code := refusal.exitCode }
  | .ok line => return exitOf (← work patience around line)

end NodeLabels.Program
