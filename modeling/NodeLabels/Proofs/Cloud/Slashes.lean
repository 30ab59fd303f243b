import NodeLabels.Program
import NodeLabels.Proofs.Url.Join
/-!
# Slashes behind base URLs

A base URL only ever comes first in a join, so the slashes behind it are lost: clients and jobs hold
the same dialogue whether there are any or not (`join_has_one_slash`).
-/

namespace NodeLabels

/-! ## Clients -/

namespace Cloud

/-- The server with so many slashes more behind its base URL. -/
def Metadata.withSlashes (server : Metadata) (n : Nat) : Metadata :=
  { base := server.base ++ Url.slashRun n }

def TokenSource.withSlashes (tokens : TokenSource) (n : Nat) : TokenSource :=
  match tokens with
  | .fixed token => .fixed token
  | .metadata server => .metadata (server.withSlashes n)

/-- The client with slashes behind its own base URL and behind that of its tokens. -/
def Compute.withSlashes (c : Compute) (n k : Nat) : Compute :=
  { base := c.base ++ Url.slashRun n, tokens := c.tokens.withSlashes k }

def Monitoring.withSlashes (m : Monitoring) (n k : Nat) : Monitoring :=
  { base := m.base ++ Url.slashRun n, tokens := m.tokens.withSlashes k }

section

variable (server : Metadata) (tokens : TokenSource) (n k : Nat)

theorem Metadata.url_withSlashes (path : String) :
    (server.withSlashes n).url path = server.url path := Url.join_base_slashRun _ _ _

theorem Metadata.get_withSlashes (path : String) :
    (server.withSlashes n).get path = server.get path := by
  unfold Metadata.get
  rw [url_withSlashes]

theorem Metadata.projectId_withSlashes : (server.withSlashes n).projectId = server.projectId := by
  unfold projectId
  rw [get_withSlashes]

theorem Metadata.accessToken_withSlashes :
    (server.withSlashes n).accessToken = server.accessToken := by
  unfold accessToken
  rw [url_withSlashes]

theorem TokenSource.token_withSlashes : (tokens.withSlashes n).token = tokens.token := by
  cases tokens with
  | fixed token => rfl
  | metadata server => simp only [withSlashes, token, Metadata.accessToken_withSlashes]

theorem TokenSource.events_withSlashes : (tokens.withSlashes n).events = tokens.events := by
  cases tokens <;> rfl

end

theorem Compute.instanceId_withSlashes (c : Compute) (n k : Nat) (project zone name : String) :
    (c.withSlashes n k).instanceId project zone name = c.instanceId project zone name := by
  have hurl : (c.withSlashes n k).url project zone name = c.url project zone name :=
    Url.join_base_slashRun _ _ _
  have htoken : (c.withSlashes n k).tokens.token = c.tokens.token := c.tokens.token_withSlashes k
  unfold instanceId
  rw [hurl, htoken]

namespace Monitoring

variable (m : Monitoring) (n k : Nat) (project instanceId : String) (window : Window)

theorem fetchPage_withSlashes (page : Option String) :
    (m.withSlashes n k).fetchPage project instanceId window page =
      m.fetchPage project instanceId window page := by
  have hurl : (m.withSlashes n k).url project instanceId window page =
      m.url project instanceId window page := by
    unfold url withSlashes
    rw [Url.join_base_slashRun]
  have htoken : (m.withSlashes n k).tokens.token = m.tokens.token := m.tokens.token_withSlashes k
  unfold fetchPage
  rw [hurl, htoken]

theorem collect_withSlashes (patience : Nat) (page : Option String) (seen : List String)
    (found : List Series) :
    (m.withSlashes n k).collect project instanceId window patience page seen found =
      m.collect project instanceId window patience page seen found := by
  induction patience generalizing page seen found with
  | zero => rfl
  | succ patience ih => simp only [collect, fetchPage_withSlashes, ih]

theorem predictionSeries_withSlashes (patience : Nat) :
    (m.withSlashes n k).predictionSeries patience project instanceId window =
      m.predictionSeries patience project instanceId window := by
  unfold predictionSeries
  rw [collect_withSlashes]

end Monitoring

end Cloud

/-! ## Jobs -/

/-- The configuration with slashes behind its three base URLs. -/
def Config.withSlashes (config : Config) (i j k : Nat) : Config :=
  { config with
    cloud := { config.cloud with
      metadataUrl := config.cloud.metadataUrl ++ Url.slashRun i
      computeUrl := config.cloud.computeUrl ++ Url.slashRun j
      monitoringUrl := config.cloud.monitoringUrl ++ Url.slashRun k } }

namespace Program

variable (around : Surroundings) (config : Config) (i j k : Nat)

theorem metadata_withSlashes :
    metadata (config.withSlashes i j k) = (metadata config).withSlashes i := rfl

theorem tokenSource_withSlashes :
    tokenSource around (config.withSlashes i j k) = (tokenSource around config).withSlashes i := by
  unfold tokenSource Cloud.TokenSource.ofEnvironment
  cases around.environment.get? Cloud.TokenSource.environmentName with
  | none => rfl
  | some token =>
    dsimp only
    split <;> rfl

theorem topologyAnswer_withSlashes (client : Cluster.Client) :
    (topologyServices (config.withSlashes i j k) client).answer =
      (topologyServices config client).answer := by
  funext call
  cases call with
  | instanceName =>
    exact congrArg (Machine.exchange _) ((metadata config).get_withSlashes i _)
  | physicalHost =>
    exact congrArg (Machine.exchange _) ((metadata config).get_withSlashes i _)
  | _ => rfl

theorem predictionAnswer_withSlashes (client : Cluster.Client) (tokens : Cloud.TokenSource)
    (patience : Nat) :
    (predictionServices (config.withSlashes i j k) client (tokens.withSlashes i)).answer patience =
      (predictionServices config client tokens).answer patience := by
  funext call
  cases call with
  | instanceId project zone name =>
    exact congrArg (Machine.exchange _) (Cloud.Compute.instanceId_withSlashes
      { base := config.cloud.computeUrl, tokens } j i project zone name)
  | series project id window =>
    exact congrArg (Machine.exchange _) (Cloud.Monitoring.predictionSeries_withSlashes
      { base := config.cloud.monitoringUrl, tokens } k i project id window patience)
  | _ => rfl

theorem runTopology_withSlashes (patience : Nat) (once : Bool) :
    runTopology patience around (config.withSlashes i j k) once =
      runTopology patience around config once := by
  unfold runTopology
  simp only [topologyAnswer_withSlashes]
  rfl

theorem runPrediction_withSlashes (patience : Nat) (given : Option String) :
    runPrediction patience around (config.withSlashes i j k) given =
      runPrediction patience around config given := by
  have hproject : projectOf given (config.withSlashes i j k) = projectOf given config := by
    unfold projectOf
    rw [metadata_withSlashes, Cloud.Metadata.projectId_withSlashes]
    rfl
  have hpass (project : String) : predictFor patience around (config.withSlashes i j k) project =
      predictFor patience around config project := by
    unfold predictFor
    simp only [tokenSource_withSlashes, predictionAnswer_withSlashes,
      Cloud.TokenSource.events_withSlashes]
    rfl
  unfold runPrediction
  simp only [hproject, hpass]

end Program

/-- Slashes at the seam of a join make no difference, and there is one in the end. Joining is
associative. So a client asks for the same and makes the same of it, and a job does the same all
over, however many slashes there are behind the base URLs. -/
theorem join_has_one_slash :
    (∀ base path k m, Url.join (base ++ Url.slashRun k) (Url.slashRun m ++ path) =
      Url.join base path) ∧
    (∀ base path, ∃ front back k m, base = front ++ Url.slashRun k ∧ Url.EndsBare front ∧
      path = Url.slashRun m ++ back ∧ Url.BeginsBare back ∧
      Url.join base path = front ++ "/" ++ back) ∧
    (∀ a b c, Url.join (Url.join a b) c = Url.join a (Url.join b c)) ∧
    (∀ (server : Cloud.Metadata) (n : Nat),
      (server.withSlashes n).instanceName = server.instanceName ∧
      (server.withSlashes n).physicalHost = server.physicalHost ∧
      (server.withSlashes n).projectId = server.projectId ∧
      (server.withSlashes n).accessToken = server.accessToken) ∧
    (∀ (c : Cloud.Compute) (n k : Nat) (project zone name : String),
      (c.withSlashes n k).instanceId project zone name = c.instanceId project zone name) ∧
    (∀ (m : Cloud.Monitoring) (n k patience : Nat) (project instanceId : String) (window : Window),
      (m.withSlashes n k).predictionSeries patience project instanceId window =
        m.predictionSeries patience project instanceId window) ∧
    ∀ (around : Program.Surroundings) (config : Config) (i j k patience : Nat),
      (∀ once, Program.runTopology patience around (config.withSlashes i j k) once =
        Program.runTopology patience around config once) ∧
      ∀ given, Program.runPrediction patience around (config.withSlashes i j k) given =
        Program.runPrediction patience around config given := by
  refine ⟨Url.join_slashRun, Url.exists_join, Url.join_assoc, fun server n => ?_, ?_, ?_, ?_⟩
  · exact ⟨server.get_withSlashes n _, server.get_withSlashes n _, server.projectId_withSlashes n,
      server.accessToken_withSlashes n⟩
  · exact Cloud.Compute.instanceId_withSlashes
  · intro m n k patience project instanceId window
    exact m.predictionSeries_withSlashes n k project instanceId window patience
  · intro around config i j k patience
    exact ⟨Program.runTopology_withSlashes around config i j k patience,
      Program.runPrediction_withSlashes around config i j k patience⟩

end NodeLabels
