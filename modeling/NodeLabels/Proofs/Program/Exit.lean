import NodeLabels.Proofs.Config
import NodeLabels.Proofs.Program.Project
import NodeLabels.Proofs.Topology.Answers
/-!
# The exit status

How the program ends. It fails without a call to anything if its configuration is refused. A
prediction fails if no project can be found, a single cycle if the cycle does, and whatever else
goes wrong is reported and no failure (`exit_status`).
-/

namespace NodeLabels.Program

open Cloud.Monitoring (NamesAmong mostPages)
open CommandLine (projectVariable)
open Dialogue (HaltsOnly Returns Within)
open Http (server)
open Machine (Patchless exchange_patchless sendsPatch)
open Prediction (passOrReport_haltsOnly series_haltsOnly series_returns_of_mostPages
  series_returns_of_names)

variable {patience : Nat} {around : Surroundings} {args : List String} {line : CommandLine}
  {config : Config} {client : Cluster.Client} {σ : Type}

/-- The run ended with this code. -/
def Exits (t : Dialogue.Transcript Machine.port σ Exit) (code : Nat) : Prop :=
  ∃ exit, t.value = .ok exit ∧ exit.code = code

/-! ## Configurations that are refused -/

/-- The configuration cannot be had, or it breaks a rule with what the command line adds to it. -/
inductive Refused (around : Surroundings) (line : CommandLine) : Prop
  | unusable (hpresent : around.file line.config ≠ .absent) {fault : Config.LoadFault}
      (hfault : Config.ofFile line.config (around.file line.config).bytes? = .error fault) :
      Refused around line
  | invalid {config : Config} (hconfig : configAt around line.config = .ok config)
      {fault : Config.Fault} (hfault : (overridden config line).fault? = some fault) :
      Refused around line

theorem configAt_of_present {path : String} (h : around.file path ≠ .absent) :
    configAt around path = Config.ofFile path (around.file path).bytes? := by
  unfold configAt
  cases hfile : around.file path with
  | absent => exact absurd hfile h
  | unreadable => rfl
  | content bytes => rfl

theorem Refused.configured (h : Refused around line) :
    ∃ fault, configured around line = .error fault := by
  unfold Program.configured
  cases h with
  | unusable hpresent hfault =>
    rw [configAt_of_present hpresent, hfault]
    exact ⟨_, rfl⟩
  | invalid hconfig hfault =>
    rw [hconfig]
    exact ⟨_, settle_of_fault hfault⟩

/-- What is not refused is had and passes the checks. -/
theorem exists_config (h : ¬ Refused around line) : ∃ config,
    configAt around line.config = .ok config ∧
      configured around line = .ok (overridden config line) := by
  cases hat : configAt around line.config with
  | error fault =>
    by_cases hpresent : around.file line.config = .absent
    · unfold configAt at hat
      rw [hpresent] at hat
      exact nomatch hat
    · rw [configAt_of_present hpresent] at hat
      exact absurd (.unusable hpresent hat) h
  | ok config =>
    cases hfault : (overridden config line).fault? with
    | some fault => exact absurd (.invalid hat hfault) h
    | none =>
      refine ⟨config, rfl, ?_⟩
      unfold configured
      rw [hat]
      exact settle_of_valid hfault

theorem Refused.run (patience : Nat)
    (reply : (c : Machine.port.Call) → σ → Machine.port.Reply c × σ)
    (hparse : CommandLine.parse around.environment args = .ok line) (h : Refused around line)
    (s : σ) :
    let t := (Program.run patience around args).run reply s
    Exits t 1 ∧ t.calls = [] := by
  obtain ⟨fault, hfault⟩ := h.configured
  rw [run_parsed patience reply hparse]
  unfold proceed
  rw [hfault]
  exact ⟨⟨_, rfl, rfl⟩, rfl⟩

/-! ## No configuration at all -/

/-- The surroundings with another file at a path. -/
def Surroundings.withFile (around : Surroundings) (path : String) (file : File) : Surroundings :=
  { around with file := fun p => if p = path then file else around.file p }

/-- A file that holds an empty mapping. -/
def emptyMapping : File := .content [0x7B, 0x7D]

theorem file_withFile (around : Surroundings) (path : String) (file : File) :
    (around.withFile path file).file path = file := if_pos rfl

/-- A configuration that is not there counts as an empty one. -/
theorem proceed_withFile (h : around.file line.config = .absent) :
    proceed patience (around.withFile line.config emptyMapping) line =
      proceed patience around line := by
  have hat : configAt (around.withFile line.config emptyMapping) line.config =
      configAt around line.config := by
    unfold configAt
    rw [file_withFile, h]
    exact Config.ofFile_emptyMapping line.config
  unfold proceed configured
  rw [hat]
  rfl

theorem run_withFile (patience : Nat)
    (reply : (c : Machine.port.Call) → σ → Machine.port.Reply c × σ)
    (hparse : CommandLine.parse around.environment args = .ok line)
    (h : around.file line.config = .absent) (s : σ) :
    let t := (run patience around args).run reply s
    let u := (run patience (around.withFile line.config emptyMapping) args).run reply s
    u.value = t.value ∧ u.state = t.state ∧ u.calls = t.calls ∧
    ∃ later, u.events = startEvent :: later ∧
      t.events = startEvent :: missingConfigEvent line.config :: later := by
  have hempty : CommandLine.parse (around.withFile line.config emptyMapping).environment args =
      .ok line := hparse
  have hbefore : absenceEvents around line.config = [missingConfigEvent line.config] := by
    unfold absenceEvents
    rw [h]
  have hafter : absenceEvents (around.withFile line.config emptyMapping) line.config = [] := by
    unfold absenceEvents
    rw [file_withFile]
    rfl
  rw [run_parsed patience reply hparse, run_parsed patience reply hempty, proceed_withFile h,
    hbefore, hafter]
  exact ⟨rfl, rfl, rfl, _, rfl, rfl⟩

/-! ## Predictions -/

section

variable (reply : (c : Machine.port.Call) → σ → Machine.port.Reply c × σ)

theorem finish_returns (summary : Option Prediction.Summary) (s : σ) :
    Returns reply (finish summary) s (.ok ()) s [] := by
  unfold finish
  split
  · exact .tell_done _ _ s
  · exact .done _ s

theorem value_predictFor (hclient : Cluster.Client.connect around.cluster = .ok client)
    (project : String) (s : σ) :
    ((predictFor patience around config project).run reply s).value =
      ((passFor patience around config client project).run reply s).value.map fun _ => .ok () := by
  rw [predictFor_eq hclient]
  simp only [Dialogue.run, Dialogue.run_tellAll_bind]
  exact (Returns.bind_map (finish_returns reply) s).1

/-- No source names a project. -/
structure Projectless (around : Surroundings) (config : Config) (flag : Option String)
    (answer : Except SourceFault String) : Prop where
  arguments : flag = none
  environment : around.environment.get? projectVariable = none
  configuration : config.predictor.projectId = none
  metadata : ∀ body, answer = .ok body → Text.isAllBlank body = true

theorem projectless_iff {flag : Option String} {answer : Except SourceFault String} :
    Projectless around config flag answer ↔ ∃ fault,
      projectFrom (flag.or (around.environment.get? projectVariable)) config answer =
        .error fault := by
  rw [projectFrom_eq_error_iff, Option.or_eq_none_iff, Option.or_eq_none_iff, and_assoc, and_assoc]
  exact ⟨fun h => ⟨h.arguments, h.environment, h.configuration, h.metadata⟩,
    fun ⟨harguments, henvironment, hconfiguration, hmetadata⟩ =>
      ⟨harguments, henvironment, hconfiguration, hmetadata⟩⟩

/-! ## Single cycles -/

theorem value_runTopology_once (patience : Nat) (config : Config)
    (hclient : Cluster.Client.connect around.cluster = .ok client) (s : σ) : ∃ result,
    ((Topology.cycle.translate (topologyServices config client).answer).run reply s).value =
        .ok result ∧
      ((runTopology patience around config true).run reply s).value = .ok (concluded result) := by
  obtain ⟨result, hcycle, hupdate⟩ :=
    Topology.exists_result reply (topologyServices config client) s
  refine ⟨result, hcycle, ?_⟩
  rw [runTopology_once hclient]
  simp only [Dialogue.run, Dialogue.run_bind_done, hupdate]
  rfl

end

/-! ## Dry runs -/

theorem offerMetrics_patchless (config : Config) : Patchless (offerMetrics config) := by
  unfold offerMetrics
  split
  · refine Within.bind (.ask rfl) fun answer => ?_
    cases answer with
    | error why => exact .tell trivial
    | ok => exact .tell trivial
  · exact .done _

theorem runTopology_patchless (hdry : config.dryRun = true) (once : Bool) :
    Patchless (runTopology patience around config once) := by
  unfold runTopology
  cases hclient : Cluster.Client.connect around.cluster with
  | error failure =>
    rw [connect_of_error hclient]
    exact .done _
  | ok client =>
    have hjob {α : Type} (d : Dialogue Topology.port α) :
        Patchless (d.translate (topologyServices config client).answer) :=
      (Within.unbounded d).translate fun c _ => Topology.Services.answer_patchless hdry c
    simp only [connect_of_ok hclient, Dialogue.report_bind, Dialogue.done_bind]
    refine .report trivial ?_
    cases once with
    | true =>
      refine Within.bind (.tell trivial) fun _ => (hjob _).bind fun result => ?_
      cases result with
      | error fault => exact .done _
      | ok update => exact .done _
    | false =>
      refine (offerMetrics_patchless config).bind fun _ => (hjob _).bind fun _ => ?_
      exact .tell_done trivial _

theorem runPrediction_patchless (hdry : config.dryRun = true) (given : Option String) :
    Patchless (runPrediction patience around config given) := by
  have hfind : Patchless (projectOf given config) := by
    rw [projectOf_eq]
    cases given.or config.predictor.projectId with
    | some project => exact .done _
    | none =>
      refine Within.bind ?_ fun answer => .done _
      exact exchange_patchless ((metadata config).get_onlyGets _) _
  refine hfind.bind fun found => ?_
  cases found with
  | error fault => exact .done _
  | ok project =>
    refine (predictFor_within patience around config project).mono fun c hc => ?_
    obtain ⟨client, -, hsends⟩ := hc
    exact hsends.patchless hdry

theorem job_patchless (hdry : config.dryRun = true) (command : CommandLine.Command) :
    Patchless (job patience around config command) := by
  cases command with
  | topology once => exact runTopology_patchless hdry once
  | predict given => exact runPrediction_patchless hdry given

/-! ## The exit -/

section

variable {reply : (c : Machine.port.Call) → σ → Machine.port.Reply c × σ}

theorem passFor_haltsOnly {reasons : Halt → Prop} {project : String}
    (hclock : ∀ s, Window.endingAt? (reply Machine.Call.now s).1 config.predictor.window ≠ none)
    (hseries : ∀ id window, HaltsOnly reply reasons
      ((predictionServices config client (tokenSource around config)).answer patience
        (.series project id window))) :
    HaltsOnly reply reasons (passFor patience around config client project) :=
  passOrReport_haltsOnly hseries hclock

/-- The run of a prediction that has its project ends well as soon as its patience is enough for
every page of a query, and no query has more than `mostPages`. -/
theorem exits_of_project (hclient : Cluster.Client.connect around.cluster = .ok client)
    (hclock : ∀ s, Window.endingAt? (reply Machine.Call.now s).1 config.predictor.window ≠ none)
    {t : Dialogue.Transcript Machine.port σ Exit} {project : String} {u : σ}
    (ht : t.value =
      ((predictFor patience around config project).run reply u).value.map exitOf) :
    (mostPages ≤ patience → Exits t 0) ∧ (Exits t 0 ∨ t.value = .error .outOfPatience) ∧
      ∀ names, NamesAmong (server reply (some config.cloud.requestTimeout)) names →
        names.card < patience → Exits t 0 := by
  rw [value_predictFor reply hclient] at ht
  cases hpass : ((passFor patience around config client project).run reply u).value with
  | ok summary =>
    rw [hpass] at ht
    have hexits : Exits t 0 := ⟨_, ht, rfl⟩
    exact ⟨fun _ => hexits, .inl hexits, fun _ _ _ => hexits⟩
  | error why =>
    -- Nothing but a query halts a pass, and that for one reason only.
    rw [hpass] at ht
    refine ⟨fun hpatience => ?_, .inr ?_, fun names hnames hpatience => ?_⟩
    · exact (passFor_haltsOnly hclock (series_returns_of_mostPages hpatience project) u why
        hpass).elim
    · obtain rfl := passFor_haltsOnly hclock (fun id window => series_haltsOnly project id window)
        u why hpass
      exact ht
    · exact (passFor_haltsOnly hclock (series_returns_of_names hnames hpatience project) u why
        hpass).elim

/-- A run that is not refused goes on with a configuration. -/
theorem value_run (patience : Nat)
    (reply : (c : Machine.port.Call) → σ → Machine.port.Reply c × σ)
    (hparse : CommandLine.parse around.environment args = .ok line)
    (hconfig : configured around line = .ok config) (s : σ) :
    let t := (run patience around args).run reply s
    let u := (job patience around config line.command).run reply s
    t.value = u.value.map exitOf ∧ t.calls = u.calls := by
  rw [run_parsed patience reply hparse]
  unfold proceed
  rw [hconfig]
  exact ⟨rfl, rfl⟩

theorem exits_of_prediction (patience : Nat)
    (hparse : CommandLine.parse around.environment args = .ok line)
    (hconfig : configured around line = .ok config) {given : Option String}
    (hcommand : line.command = .predict given)
    (hclient : Cluster.Client.connect around.cluster = .ok client)
    (hclock : ∀ s, Window.endingAt? (reply Machine.Call.now s).1 config.predictor.window ≠ none)
    (s : σ) :
    let t := (run patience around args).run reply s
    ∃ flag answer,
      CommandLine.parse (around.environment.without projectVariable) args =
        .ok { line with command := .predict flag } ∧
      ((projectQuery config).run reply s).value = .ok answer ∧
      (Projectless around config flag answer → Exits t 1) ∧
      (¬ Projectless around config flag answer →
        (mostPages ≤ patience → Exits t 0) ∧ (Exits t 0 ∨ t.value = .error .outOfPatience) ∧
        ∀ names, NamesAmong (server reply (some config.cloud.requestTimeout)) names →
          names.card < patience → Exits t 0) := by
  intro t
  obtain ⟨flag, hgiven, hflag⟩ := CommandLine.exists_flag hparse hcommand
  obtain ⟨answer, u, asked, hanswer, -, -, ht, -⟩ :=
    exists_answer patience reply hparse hcommand hconfig s
  refine ⟨flag, answer, hflag, hanswer, fun hnone => ?_, fun hsome => ?_⟩
  · obtain ⟨fault, hfault⟩ := projectless_iff.1 hnone
    rw [hgiven, hfault] at ht
    exact ⟨_, ht, rfl⟩
  · rw [projectless_iff, ← hgiven] at hsome
    cases hproject : projectFrom given config answer with
    | error fault => exact absurd ⟨fault, hproject⟩ hsome
    | ok project =>
      rw [hproject] at ht
      exact exits_of_project hclient hclock ht

theorem exits_of_once (patience : Nat)
    (hparse : CommandLine.parse around.environment args = .ok line)
    (hconfig : configured around line = .ok config) (hcommand : line.command = .topology true)
    (hclient : Cluster.Client.connect around.cluster = .ok client) (s : σ) :
    ∃ result,
      ((Topology.cycle.translate (topologyServices config client).answer).run reply s).value =
        .ok result ∧
      Exits ((run patience around args).run reply s) (if result.isOk then 0 else 1) := by
  obtain ⟨hvalue, -⟩ := value_run patience reply hparse hconfig s
  obtain ⟨result, hcycle, honce⟩ := value_runTopology_once reply patience config hclient s
  refine ⟨result, hcycle, exitOf (concluded result), ?_, ?_⟩
  · rw [hvalue, hcommand]
    exact congrArg _ honce
  · cases result <;> rfl

/-- How the program ends on a machine with a cluster. With a configuration that is refused it fails
and has called nothing. One that is not there counts as an empty one, apart from a warning. A
prediction fails if nobody names a project, and else it ends well whatever the servers answer: also
a server that names a new page each time is left in the end, and the patience for that is the same
for all of them. A single cycle fails if the cycle does, and a dry run patches nothing. -/
theorem exit_status (patience : Nat)
    (hparse : CommandLine.parse around.environment args = .ok line)
    {address : String} (hcluster : around.cluster = some address)
    (reply : (c : Machine.port.Call) → σ → Machine.port.Reply c × σ) (s : σ) :
    let t := (run patience around args).run reply s
    (Refused around line → Exits t 1 ∧ t.calls = []) ∧
    (around.file line.config = .absent →
      let u := (run patience (around.withFile line.config emptyMapping) args).run reply s
      u.value = t.value ∧ u.state = t.state ∧ u.calls = t.calls ∧
      ∃ later, u.events = startEvent :: later ∧
        t.events = startEvent :: missingConfigEvent line.config :: later) ∧
    (¬ Refused around line → ∃ found, configAt around line.config = .ok found ∧
      let config := overridden found line
      (∀ given, line.command = .predict given →
        (∀ s, Window.endingAt? (reply Machine.Call.now s).1 config.predictor.window ≠ none) →
        ∃ flag answer,
          CommandLine.parse (around.environment.without projectVariable) args =
            .ok { line with command := .predict flag } ∧
          ((projectQuery config).run reply s).value = .ok answer ∧
          (Projectless around config flag answer → Exits t 1) ∧
          (¬ Projectless around config flag answer →
            (mostPages ≤ patience → Exits t 0) ∧ (Exits t 0 ∨ t.value = .error .outOfPatience) ∧
            ∀ names, NamesAmong (server reply (some config.cloud.requestTimeout)) names →
              names.card < patience → Exits t 0)) ∧
      (line.command = .topology true → ∃ result,
        ((Topology.cycle.translate (topologyServices config { server := address }).answer).run
          reply s).value = .ok result ∧
        Exits t (if result.isOk then 0 else 1)) ∧
      (found.dryRun = true ∨ line.dryRun = true → ∀ c ∈ t.calls, sendsPatch c = false)) := by
  intro t
  have hclient : Cluster.Client.connect around.cluster = .ok { server := address } :=
    congrArg _ hcluster
  refine ⟨fun hrefused => hrefused.run patience reply hparse s,
    fun habsent => run_withFile patience reply hparse habsent s, fun hrefused => ?_⟩
  obtain ⟨found, hfound, hconfig⟩ := exists_config hrefused
  refine ⟨found, hfound, ?_⟩
  intro config
  refine ⟨fun given hcommand hclock =>
      exits_of_prediction patience hparse hconfig hcommand hclient hclock s,
    fun hcommand => exits_of_once patience hparse hconfig hcommand hclient s, fun hdry => ?_⟩
  -- It makes no difference which of the two asks for a dry run.
  have hdryRun : config.dryRun = true := Bool.or_eq_true_iff.2 hdry
  obtain ⟨-, hcalls⟩ := value_run patience reply hparse hconfig s
  rw [hcalls]
  exact (job_patchless hdryRun line.command).calls_run reply s

end

/-! ## A dry run without a configuration -/

/-- No page of a query goes on, as there is none. -/
theorem site_names (limit : Option Span) : NamesAmong (server site limit) ∅ := by
  intro r s p _ hp token htoken
  have hnodes : (Cloud.Monitoring.pageIn nodesReply).bind Cloud.Monitoring.Page.next? = none := by
    decide +kernel
  have hinstance : (Cloud.Monitoring.pageIn instanceReply).bind Cloud.Monitoring.Page.next? =
      none := by
    decide +kernel
  have hnext {answer : Http.Reply} (h : Cloud.Monitoring.pageIn answer = some p)
      (hnone : (Cloud.Monitoring.pageIn answer).bind Cloud.Monitoring.Page.next? = none) :
      False := by
    rw [h] at hnone
    exact nomatch hnone.symm.trans htoken
  change Cloud.Monitoring.pageIn (siteReply r) = some p at hp
  unfold siteReply at hp
  split at hp
  · exact (hnext hp hnodes).elim
  split at hp
  · exact (hnext hp hinstance).elim
  · exact nomatch hp

def namedSurroundings : Surroundings where
  environment := [(Cloud.TokenSource.environmentName, "t"), (projectVariable, "p")]
  cluster := some "http://k"

def dryLine : CommandLine := { dryRun := true, command := .predict (some "p") }

/-- The same node and instance, and pages each of which names one that was never named before. -/
def restlessSite (c : Machine.port.Call) (n : Nat) : Machine.port.Reply c × Nat :=
  (match c with
    | .send _ r =>
      if r.origin = "https://monitoring.googleapis.com" then
        Cloud.Monitoring.document ("\x7b\"nextPageToken\":\"" ++ toString n ++ "\"\x7d")
      else siteReply r
    | .now => .early 900
    | .count _ => ()
    | .stampSuccess => ()
    | .pause _ => .due
    | .serveMetrics _ => .ok (), n + 1)

/-- The series of the one instance cannot be had, and the program ends well without a patch. It ends
well, too, where every page leads to a new one. -/
theorem exit_status_namedProject :
    CommandLine.parse namedSurroundings.environment ["--dry-run", "predict"] = .ok dryLine ∧
    ¬ Refused namedSurroundings dryLine ∧
    (let t := (run 1 namedSurroundings ["--dry-run", "predict"]).run site ()
     Exits t 0 ∧ ∀ c ∈ t.calls, sendsPatch c = false) ∧
    Exits ((run mostPages namedSurroundings ["--dry-run", "predict"]).run restlessSite 0) 0 := by
  have hparse : CommandLine.parse namedSurroundings.environment ["--dry-run", "predict"] =
      .ok dryLine := Cloud.eq_ok_of_toOption (by decide +kernel)
  have hrefused : ¬ Refused namedSurroundings dryLine := by
    rintro (⟨hpresent, -⟩ | ⟨hconfig, hfault⟩)
    · exact hpresent rfl
    · cases hconfig
      exact nomatch hfault
  have hwindow : Window.endingAt? (.early 900) (overridden default dryLine).predictor.window ≠
      none := by
    decide +kernel
  refine ⟨hparse, hrefused, ?_, ?_⟩
  · obtain ⟨-, -, haccepted⟩ := exit_status 1 hparse rfl site ()
    obtain ⟨found, hfound, hpredict, -, hdry⟩ := haccepted hrefused
    cases hfound
    obtain ⟨flag, answer, -, -, -, hnamed⟩ := hpredict (some "p") rfl fun _ => hwindow
    obtain ⟨-, -, hends⟩ := hnamed fun h => nomatch h.environment
    exact ⟨hends ∅ (site_names _) (by decide), hdry (.inr rfl)⟩
  · obtain ⟨-, -, haccepted⟩ := exit_status mostPages hparse rfl restlessSite 0
    obtain ⟨found, hfound, hpredict, -, -⟩ := haccepted hrefused
    cases hfound
    obtain ⟨flag, answer, -, -, -, hnamed⟩ := hpredict (some "p") rfl fun _ => hwindow
    exact (hnamed fun h => nomatch h.environment).1 Nat.le.refl

end NodeLabels.Program
