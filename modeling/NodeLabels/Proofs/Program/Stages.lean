import NodeLabels.Program
import NodeLabels.Proofs.Dialogue.Exchange
/-!
# The stages of the program

Which configuration the program runs with, and what a run of it is made of: the arguments, the
configuration and the job follow each other, and only the job makes calls (`run_parsed`).
-/

namespace NodeLabels.Program

open Dialogue (Returns Transcript)

variable {patience : Nat} {around : Surroundings} {args : List String} {line : CommandLine}

/-- The configuration at a path, the default one if there is nothing. -/
def configAt (around : Surroundings) (path : String) : Except Config.LoadFault Config :=
  match around.file path with
  | .absent => .ok default
  | file => Config.ofFile path file.bytes?

/-- The configuration with what the command line adds to it. -/
def overridden (config : Config) (line : CommandLine) : Config :=
  { config with dryRun := config.dryRun || line.dryRun }

/-- The configuration that the job is run with. -/
def configured (around : Surroundings) (line : CommandLine) : Except Fault Config :=
  match configAt around line.config with
  | .error fault => .error (.config line.config fault)
  | .ok config => settle config line

theorem settle_of_fault {config : Config} {fault : Config.Fault}
    (h : (overridden config line).fault? = some fault) :
    settle config line = .error (.invalidConfig fault) := by
  unfold overridden at h
  unfold settle
  simp only [h]

theorem settle_of_valid {config : Config} (h : (overridden config line).fault? = none) :
    settle config line = .ok (overridden config line) := by
  unfold overridden at h
  unfold settle
  simp only [h]
  rfl

/-! ## Runs -/

def startEvent : Event := event .info "Node labeler starting" [("version", .text version)]

def loadedEvent (config : Config) : Event :=
  event .info "Configuration loaded" [("dry_run", .flag config.dryRun)]

/-- What is reported of a configuration file that is not there. -/
def absenceEvents (around : Surroundings) (path : String) : List Event :=
  match around.file path with
  | .absent => [missingConfigEvent path]
  | _ => []

def job (patience : Nat) (around : Surroundings) (config : Config) :
    CommandLine.Command → Dialogue Machine.port (Except Fault Unit)
  | .topology once => runTopology patience around config once
  | .predict given => runPrediction patience around config given

/-- A prediction once its project is known. -/
def whenFound (patience : Nat) (around : Surroundings) (config : Config) :
    Except Fault String → Dialogue Machine.port (Except Fault Unit)
  | .error fault => .done (.error fault)
  | .ok project => predictFor patience around config project

/-- What follows once the configuration is known. -/
def proceed (patience : Nat) (around : Surroundings) (line : CommandLine) :
    Dialogue Machine.port (Except Fault Unit) :=
  match configured around line with
  | .error fault => .done (.error fault)
  | .ok config => .report (loadedEvent config) (job patience around config line.command)

theorem loadConfig_eq (around : Surroundings) (path : String) : loadConfig around path =
    .tellAll (absenceEvents around path) >>= fun _ =>
      .done ((configAt around path).mapError (.config path)) := by
  unfold loadConfig absenceEvents configAt
  cases around.file path <;> rfl

theorem work_eq (patience : Nat) (around : Surroundings) (line : CommandLine) :
    work patience around line =
      .report startEvent (.tellAll (absenceEvents around line.config) >>= fun _ =>
        proceed patience around line) := by
  have hproceed : proceed patience around line =
      (match (configAt around line.config).mapError (Fault.config line.config) with
        | .error fault => .done (.error fault)
        | .ok config =>
          match settle config line with
          | .error fault => .done (.error fault)
          | .ok config =>
            .report (loadedEvent config) (job patience around config line.command)) := by
    unfold proceed configured
    cases configAt around line.config <;> rfl
  unfold work
  rw [loadConfig_eq, Dialogue.bind_assoc, hproceed]
  refine congrArg (Dialogue.report startEvent) (congrArg (Dialogue.tellAll _ >>= ·) ?_)
  funext _
  cases (configAt around line.config).mapError (Fault.config line.config) with
  | error fault => rfl
  | ok config =>
    dsimp only [Dialogue.done_bind]
    cases settle config line with
    | error fault => rfl
    | ok config => cases line.command <;> rfl

section

variable (patience) {σ : Type} (reply : (c : Machine.port.Call) → σ → Machine.port.Reply c × σ)

/-- A run is that of the job, if it comes to it, with the reports before it, and its exit. -/
theorem run_parsed (hparse : CommandLine.parse around.environment args = .ok line) (s : σ) :
    (run patience around args).run reply s =
      let t := (proceed patience around line).run reply s
      { value := t.value.map exitOf, state := t.state, calls := t.calls
        events := startEvent :: (absenceEvents around line.config ++ t.events) } := by
  have hrun : run patience around args =
      work patience around line >>= fun result => .done (exitOf result) := by
    unfold run
    rw [hparse]
    rfl
  rw [hrun, Dialogue.run_bind_done, work_eq, Dialogue.run, Dialogue.run_tellAll_bind]

/-- A run that comes to a prediction. -/
theorem run_predict {config : Config} {given : Option String}
    (hparse : CommandLine.parse around.environment args = .ok line)
    (hcommand : line.command = .predict given) (hconfig : configured around line = .ok config)
    (s : σ) : (run patience around args).run reply s =
      let t := (projectOf given config >>= whenFound patience around config).run reply s
      { value := t.value.map exitOf, state := t.state, calls := t.calls
        events := startEvent ::
          (absenceEvents around line.config ++ loadedEvent config :: t.events) } := by
  rw [run_parsed patience reply hparse]
  unfold proceed
  rw [hconfig]
  have hjob : job patience around config line.command =
      projectOf given config >>= whenFound patience around config := by
    rw [hcommand]
    rfl
  simp only [hjob, Dialogue.run]

end

/-! ## The cluster -/

theorem connect_of_error {failure : Failure}
    (h : Cluster.Client.connect around.cluster = .error failure) :
    connect around = .done (.error (.noCluster failure)) := by
  unfold connect
  rw [h]
  rfl

theorem connect_of_ok {client : Cluster.Client}
    (h : Cluster.Client.connect around.cluster = .ok client) :
    connect around = .report Cluster.Client.connectedEvent (.done (.ok client)) := by
  unfold connect
  rw [h]
  rfl

/-! ## The jobs by the client -/

section

variable {config : Config} {client : Cluster.Client}

/-- The pass of a prediction. -/
def passFor (patience : Nat) (around : Surroundings) (config : Config) (client : Cluster.Client)
    (project : String) : Dialogue Machine.port (Option Prediction.Summary) :=
  (Prediction.passOrReport (settings config project)).translate
    ((predictionServices config client (tokenSource around config)).answer patience)

/-- A pass that went through is reported. -/
def finish (summary : Option Prediction.Summary) : Dialogue Machine.port (Except Fault Unit) := do
  if summary.isSome then .tell (event .info "Prediction labeling finished")
  return .ok ()

theorem predictFor_of_error {failure : Failure}
    (h : Cluster.Client.connect around.cluster = .error failure) (project : String) :
    predictFor patience around config project =
      .report (event .info "Using project" [("project", .text project)])
        (.done (.error (.noCluster failure))) := by
  unfold predictFor
  rw [connect_of_error h]
  rfl

theorem predictFor_eq (hclient : Cluster.Client.connect around.cluster = .ok client)
    (project : String) : predictFor patience around config project =
      .report (event .info "Using project" [("project", .text project)])
        (.report Cluster.Client.connectedEvent
          (.report (event .info "Kubernetes client initialized")
            (.tellAll (tokenSource around config).events >>= fun _ =>
              .report (event .info "GCP clients initialized")
                (passFor patience around config client project >>= finish)))) := by
  unfold predictFor
  simp only [connect_of_ok hclient, Dialogue.report_bind, Dialogue.done_bind]
  rfl

/-- What is made of the result of a single cycle. -/
def concluded : Except LabelFault Topology.Update → Except Fault Unit
  | .error fault => .error (.cycle fault)
  | .ok _ => .ok ()

theorem runTopology_once (hclient : Cluster.Client.connect around.cluster = .ok client) :
    runTopology patience around config true =
      .report Cluster.Client.connectedEvent
        (.report (event .info "Running single topology cycle (--once mode)")
          (Topology.update.translate (topologyServices config client).answer >>= fun result =>
            .done (concluded result))) := by
  unfold runTopology
  simp only [connect_of_ok hclient, Dialogue.report_bind, Dialogue.done_bind, if_true]
  refine congrArg (Dialogue.report _) (congrArg (Dialogue.report _) (bind_congr fun result => ?_))
  cases result <;> rfl

end

end NodeLabels.Program
