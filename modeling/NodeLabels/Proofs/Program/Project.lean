import NodeLabels.Proofs.Cloud.Serves
import NodeLabels.Proofs.CommandLine
import NodeLabels.Proofs.Prediction.Sends
import NodeLabels.Proofs.Program.Stages
import NodeLabels.Proofs.Text.Blank
/-!
# The project of a prediction

Where the project comes from that a prediction is run for, and that the prediction asks for nothing
of any other. A text from the command line, the environment or the configuration is taken as it is,
and only that of the metadata server is looked at (`prediction_keeps_project`), so that a prediction
can be run for a blank project (`prediction_without_project`).
-/

namespace NodeLabels

open Dialogue (Returns Within)

namespace Program

open Cloud (TokenSource)
open Cloud.Monitoring (document)
open CommandLine (projectVariable)
open Prediction (passOrReport)

variable {patience : Nat} {around : Surroundings} {args : List String} {line : CommandLine}
  {given : Option String} {config : Config}

/-! ## Finding it -/

/-- The question to the metadata server. -/
def projectQuery (config : Config) : Dialogue Machine.port (Except SourceFault String) :=
  Machine.exchange (some config.cloud.requestTimeout)
    ((metadata config).get Cloud.Metadata.projectPath)

/-- The project by what is given and by the answer of the metadata server, if it is asked. -/
def projectFrom (given : Option String) (config : Config) (answer : Except SourceFault String) :
    Except Fault String :=
  match given.or config.predictor.projectId with
  | some project => .ok project
  | none => (answer >>= Cloud.Metadata.project).mapError .noProject

theorem projectOf_eq (given : Option String) (config : Config) : projectOf given config =
    match given.or config.predictor.projectId with
    | some project => .done (.ok project)
    | none => projectQuery config >>= fun answer =>
        .done ((answer >>= Cloud.Metadata.project).mapError .noProject) := by
  unfold projectOf
  cases given.or config.predictor.projectId with
  | some project => rfl
  | none =>
    have hexchange : Machine.exchange (some config.cloud.requestTimeout)
        (metadata config).projectId = projectQuery config >>= fun answer =>
          .done (answer >>= Cloud.Metadata.project) := by
      exact Machine.exchange_bind _ _ _
    simp only [hexchange, Dialogue.bind_assoc]
    rfl

theorem projectFrom_eq_error_iff {answer : Except SourceFault String} :
    (∃ fault, projectFrom given config answer = .error fault) ↔
      given.or config.predictor.projectId = none ∧
        ∀ body, answer = .ok body → Text.isAllBlank body = true := by
  unfold projectFrom
  cases given.or config.predictor.projectId with
  | some project => simp
  | none =>
    cases answer with
    | error fault => simp [Bind.bind, Except.bind, Except.mapError]
    | ok body =>
      change (∃ fault, (Cloud.Metadata.project body).mapError Fault.noProject = .error fault) ↔ _
      unfold Cloud.Metadata.project
      cases hblank : Text.isAllBlank body <;> simp [Except.mapError, hblank]

/-- What the metadata server names is not blank, and any other project is that which is given. -/
theorem eq_some_of_isAllBlank {answer : Except SourceFault String} {project : String}
    (h : projectFrom given config answer = .ok project) (hblank : Text.isAllBlank project = true) :
    given.or config.predictor.projectId = some project := by
  unfold projectFrom at h
  cases hfirst : given.or config.predictor.projectId with
  | some first =>
    rw [hfirst] at h
    exact congrArg some (Except.ok.inj h)
  | none =>
    rw [hfirst] at h
    cases answer with
    | error fault => exact nomatch h
    | ok body =>
      change (Cloud.Metadata.project body).mapError Fault.noProject = .ok project at h
      unfold Cloud.Metadata.project at h
      split at h
      · exact nomatch h
      · rename_i hbody
        obtain rfl := Except.ok.inj h
        exact absurd ((Text.isAllBlank_trim body).symm.trans hblank) hbody

/-! ## Asking for it -/

/-- The call asks the metadata server for the project. -/
def AsksProject (config : Config) (c : Machine.port.Call) : Prop :=
  ∃ r, c = .send (some config.cloud.requestTimeout) r ∧
    (metadata config).Asks Cloud.Metadata.projectPath r

theorem projectQuery_within (config : Config) :
    (projectQuery config).Within (AsksProject config) fun _ => True :=
  ((metadata config).get_within Cloud.Metadata.projectPath).translate fun r hr =>
    .ask ⟨r, rfl, hr⟩

section

variable {σ : Type} (reply : (c : Machine.port.Call) → σ → Machine.port.Reply c × σ)

theorem projectQuery_returns (config : Config) (s : σ) :
    ∃ answer t log, Returns reply (projectQuery config) s answer t log ∧
      ∀ x ∈ log, AsksProject config x.1 := by
  obtain ⟨answer, hanswer⟩ := (metadata config).get_returns
    (Http.server reply (some config.cloud.requestTimeout)) Cloud.Metadata.projectPath s
  have hreturns : Returns reply (projectQuery config) s answer _ _ :=
    .of_value ((Http.value_exchange _ _ s).trans hanswer)
  refine ⟨answer, _, _, hreturns, fun x hx => ?_⟩
  refine (projectQuery_within config).calls_run reply s x.1 ?_
  rw [hreturns.calls]
  exact List.mem_map_of_mem hx

/-- The project is asked for only where none is given. -/
theorem projectOf_returns (given : Option String) (config : Config) (s : σ) :
    ∃ answer t log, ((projectQuery config).run reply s).value = .ok answer ∧
      Returns reply (projectOf given config) s (projectFrom given config answer) t log ∧
      (∀ x ∈ log, AsksProject config x.1) ∧
      (given.or config.predictor.projectId ≠ none → log = []) := by
  obtain ⟨answer, t, log, hquery, hlog⟩ := projectQuery_returns reply config s
  rw [projectOf_eq]
  unfold projectFrom
  cases given.or config.predictor.projectId with
  | some project => exact ⟨answer, s, [], hquery.value, .done _ s, by simp, fun _ => rfl⟩
  | none => exact ⟨answer, t, log, hquery.value, hquery.bind_silent (.done _ t), hlog, nofun⟩

end

/-! ## Predictions -/

/-- The call is one that a prediction for this project can make. -/
def AsksFor (around : Surroundings) (config : Config) (project : String)
    (c : Machine.port.Call) : Prop :=
  ∃ client, Cluster.Client.connect around.cluster = .ok client ∧
    (predictionServices config client (tokenSource around config)).Sends
      (settings config project) c

theorem predictFor_within (patience : Nat) (around : Surroundings) (config : Config)
    (project : String) : (predictFor patience around config project).Within
      (AsksFor around config project) fun _ => True := by
  cases hclient : Cluster.Client.connect around.cluster with
  | error failure =>
    rw [predictFor_of_error hclient]
    exact .report trivial (.done _)
  | ok client =>
    have hpass : (passFor patience around config client project).Within
        (AsksFor around config project) fun _ => True :=
      (Prediction.passOrReport_sends _ _ patience).mono fun c hc => ⟨client, hclient, hc⟩
    rw [predictFor_eq hclient]
    refine .report trivial (.report trivial (.report trivial ?_))
    refine Within.tellAll_bind (.report trivial (hpass.bind fun summary => ?_)) fun _ _ => trivial
    unfold finish
    split
    · exact .tell_done trivial _
    · exact .done _

/-- What a run that comes to a prediction makes of the answer of the metadata server. -/
theorem exists_answer (patience : Nat) {σ : Type}
    (reply : (c : Machine.port.Call) → σ → Machine.port.Reply c × σ)
    (hparse : CommandLine.parse around.environment args = .ok line)
    (hcommand : line.command = .predict given) (hconfig : configured around line = .ok config)
    (s : σ) : ∃ answer u asked,
      ((projectQuery config).run reply s).value = .ok answer ∧
      (∀ c ∈ asked, AsksProject config c) ∧
      (given.or config.predictor.projectId ≠ none → asked = []) ∧
      ((run patience around args).run reply s).value = ((whenFound patience around config
        (projectFrom given config answer)).run reply u).value.map exitOf ∧
      ((run patience around args).run reply s).calls = asked ++ ((whenFound patience around config
        (projectFrom given config answer)).run reply u).calls := by
  obtain ⟨answer, u, log, hanswer, hfound, hlog, hnone⟩ :=
    projectOf_returns reply given config s
  rw [run_predict patience reply hparse hcommand hconfig]
  refine ⟨answer, u, log.map Sigma.fst, hanswer, fun c hc => ?_, fun h => ?_,
    congrArg (Except.map exitOf) hfound.value_bind, hfound.calls_bind⟩
  · obtain ⟨x, hx, rfl⟩ := List.mem_map.1 hc
    exact hlog x hx
  · rw [hnone h]
    rfl

/-- A prediction is run for the first project that is given by the arguments, the environment or
the configuration, whatever its text, and asks for nothing of any other. If none is given, the
metadata server is asked first. It has to name a project that is not blank, or the program fails
without having asked for anything else. -/
theorem prediction_keeps_project (patience : Nat)
    (hparse : CommandLine.parse around.environment args = .ok line)
    (hcommand : line.command = .predict given) (hconfig : configured around line = .ok config)
    {σ : Type} (reply : (c : Machine.port.Call) → σ → Machine.port.Reply c × σ) (s : σ) :
    let t := (run patience around args).run reply s
    ∃ flag answer asked rest,
      given = flag.or (around.environment.get? projectVariable) ∧
      CommandLine.parse (around.environment.without projectVariable) args =
        .ok { line with command := .predict flag } ∧
      ((projectQuery config).run reply s).value = .ok answer ∧
      t.calls = asked ++ rest ∧ (∀ c ∈ asked, AsksProject config c) ∧
      (given.or config.predictor.projectId ≠ none → asked = []) ∧
      (given.or config.predictor.projectId = none →
        (∀ body, answer = .ok body → Text.isAllBlank body = true) →
        (∃ exit, t.value = .ok exit ∧ exit.code = 1) ∧ rest = []) ∧
      ∀ project, projectFrom given config answer = .ok project →
        (∀ c ∈ rest, AsksFor around config project c) ∧
        (Text.isAllBlank project = true → given.or config.predictor.projectId = some project) := by
  intro t
  obtain ⟨flag, hgiven, hbare⟩ := CommandLine.exists_flag hparse hcommand
  obtain ⟨answer, u, asked, hanswer, hasked, hnone, hvalue, hcalls⟩ :=
    exists_answer patience reply hparse hcommand hconfig s
  refine ⟨flag, answer, asked, _, hgiven, hbare, hanswer, hcalls, hasked, hnone, ?_, ?_⟩
  · intro hfirst hblank
    obtain ⟨fault, hfault⟩ := projectFrom_eq_error_iff.2 ⟨hfirst, hblank⟩
    rw [hvalue, hfault]
    exact ⟨⟨_, rfl, rfl⟩, rfl⟩
  · intro project hproject
    rw [hproject]
    exact ⟨(predictFor_within patience around config project).calls_run reply u,
      eq_some_of_isAllBlank hproject⟩

/-! ## A blank project -/

/-- One node. -/
def nodesReply : Http.Reply :=
  document ("\x7b\"metadata\":\x7b\x7d,\"items\":[\x7b\"metadata\":\x7b\"name\":\"a\"," ++
    "\"labels\":\x7b\"topology.kubernetes.io/zone\":\"z\"\x7d\x7d," ++
    "\"spec\":\x7b\"providerID\":\"gce://p/z/i\"\x7d\x7d]\x7d")

def instanceReply : Http.Reply := document "\x7b\"id\":\"7\"\x7d"

/-- The node and its instance. No other service can be had. -/
def siteReply (r : Http.Request) : Http.Reply :=
  if r.origin = "http://k" then nodesReply
  else if r.origin = "https://compute.googleapis.com" then instanceReply
  else .lost []

def site (c : Machine.port.Call) (s : Unit) : Machine.port.Reply c × Unit :=
  (match c with
    | .send _ r => siteReply r
    | .now => .early 900
    | .count _ => ()
    | .stampSuccess => ()
    | .pause _ => .due
    | .serveMetrics _ => .ok (), s)

/-- An environment with a token and a project that is no text. -/
def blankSurroundings : Surroundings where
  environment := [(TokenSource.environmentName, "t"), (projectVariable, "")]
  cluster := some "http://k"

def blankLine : CommandLine := { command := .predict (some "") }

/-- Everything is asked for in the name of no project. -/
theorem prediction_keeps_blankProject :
    CommandLine.parse blankSurroundings.environment ["predict"] = .ok blankLine ∧
    configured blankSurroundings blankLine = .ok default ∧
    ∀ c ∈ ((run 2 blankSurroundings ["predict"]).run site ()).calls,
      AsksFor blankSurroundings default "" c := by
  have hparse : CommandLine.parse blankSurroundings.environment ["predict"] = .ok blankLine :=
    Cloud.eq_ok_of_toOption (by decide +kernel)
  have hconfig : configured blankSurroundings blankLine = .ok default :=
    Cloud.eq_ok_of_toOption (by decide +kernel)
  obtain ⟨flag, answer, asked, rest, -, -, -, hcalls, -, hasked, -, hfound⟩ :=
    prediction_keeps_project 2 hparse rfl hconfig site ()
  obtain ⟨hrest, -⟩ := hfound "" rfl
  rw [hasked nofun, List.nil_append] at hcalls
  rw [hcalls]
  exact ⟨hparse, hconfig, hrest⟩

/-- What is looked up there. -/
def lookupTarget? (c : Machine.port.Call) : Option String :=
  match c with
  | .send _ r => if r.origin = "https://compute.googleapis.com" then some r.target else none
  | _ => none

/-- No source names a project that is not blank. All the same the nodes are listed, an instance is
looked up in a project without a name, and the program succeeds. -/
theorem prediction_without_project :
    let t := (run 2 blankSurroundings ["predict"]).run site ()
    blankLine.command = .predict (some "") ∧ (default : Config).predictor.projectId = none ∧
    ((projectQuery default).run site ()).value.toOption.bind Except.toOption = none ∧
    t.calls.filterMap lookupTarget? = ["/compute/v1/projects//zones/z/instances/i"] ∧
    t.value.toOption.map Exit.code = some 0 := by
  intro t
  have hrun : (t.calls.filterMap lookupTarget?, t.value.toOption.map Exit.code) =
      (["/compute/v1/projects//zones/z/instances/i"], some 0) := by decide +kernel
  have hnobody : ((projectQuery default).run site ()).value.toOption.bind Except.toOption =
      none := by decide +kernel
  obtain ⟨hcalls, hcode⟩ := Prod.mk.inj hrun
  exact ⟨rfl, rfl, hnobody, hcalls, hcode⟩

end Program

end NodeLabels
