import Mathlib.Algebra.GroupWithZero.Nat
import NodeLabels.Proofs.Metrics
import NodeLabels.Proofs.Topology.Cycle
/-!
# Cycles by a script

A script gives every cycle the answers that it will get. What a cycle asks and writes, and how it
ends, follow from its own answers (`Accounts`); what is counted over the whole script is the number
of cycles that were to be counted, and among them those whose patch was accepted.
-/

namespace NodeLabels.Topology

open Dialogue (Exchange Returns Transcript)

/-! ## The answers to one cycle -/

/-- The answers that a cycle gets if it asks for them. -/
structure Answers where
  name : Except SourceFault String
  host : Except SourceFault String
  verdict : Except Failure Unit

namespace Answers

def answer (a : Answers) : (c : port.Call) → port.Reply c
  | .instanceName => a.name
  | .physicalHost => a.host
  | .patch _ _ => a.verdict
  | .count _ => ()
  | .stampSuccess => ()
  | .pause _ => .due

/-- The machine is the node of this name: blanks around the name do not count, and something has to
be left. -/
def Names (a : Answers) (node : String) : Prop :=
  ∃ name, a.name = .ok name ∧ Text.trim name = node ∧ node ≠ ""

/-- The machine has this placement. -/
def Places (a : Answers) (p : Placement) : Prop :=
  ∃ raw, a.host = .ok raw ∧ Placement.parse raw = .ok p

end Answers

/-- The result of a cycle, what it asked for the placement and what it wrote, each told from the
answers. An answer that was not asked for is no reason for anything. -/
structure Accounts (a : Answers) (result : Except LabelFault Update)
    (hosts edits : List (Exchange port)) : Prop where
  host_asked : ∀ node, a.Names node → hosts = [hostRead a.host]
  host_not_asked : (∀ node, ¬ a.Names node) → hosts = []
  patched_once : ∀ node p, a.Names node → a.Places p → ∃ labels,
    labels.entries = [(Label.cluster, p.cluster), (Label.host, p.host), (Label.rack, p.rack)] ∧
      edits = [patched node labels a.verdict]
  not_patched : (∀ node p, ¬ (a.Names node ∧ a.Places p)) → edits = []
  labeled : ∀ node p, result = .ok { node, placement := p } ↔
    a.Names node ∧ a.Places p ∧ ∃ labels, patched node labels (.ok ()) ∈ edits
  refused : ∀ node failure, result = .error (.patch node failure) ↔
    a.Names node ∧ ∃ labels, patched node labels (.error failure) ∈ edits
  unavailable : ∀ what fault, result = .error (.unavailable what fault) ↔
    (what = "node name" ∧ a.name = .error fault) ∨
      (what = "physical host" ∧ hostRead (.error fault) ∈ hosts)
  malformed : (∃ what value, result = .error (.malformed what value)) ↔
    edits = [] ∧ (∀ fault, a.name ≠ .error fault) ∧ ∀ fault, hostRead (.error fault) ∉ hosts

theorem Answers.names_iff {a : Answers} {name : String} (ha : a.name = .ok name)
    (hname : Text.trim name ≠ "") (node : String) : a.Names node ↔ node = Text.trim name := by
  constructor
  · rintro ⟨given, hgiven, rfl, -⟩
    cases ha.symm.trans hgiven
    rfl
  · rintro rfl
    exact ⟨name, ha, rfl, hname⟩

theorem Answers.places_iff {a : Answers} {raw : String} {p : Placement} (ha : a.host = .ok raw)
    (hplace : Placement.parse raw = .ok p) (q : Placement) : a.Places q ↔ q = p := by
  constructor
  · rintro ⟨given, hgiven, hq⟩
    cases ha.symm.trans hgiven
    exact Except.ok.inj (hq.symm.trans hplace)
  · rintro rfl
    exact ⟨raw, ha, hplace⟩

theorem Cycled.accounts {a : Answers} {result : Except LabelFault Update}
    {log : List (Exchange port)} (h : Cycled result log)
    (hanswered : ∀ x ∈ log, x.2 = a.answer x.1) :
    ∃ hosts edits, log = nameRead a.name :: (hosts ++ edits) ∧ Accounts a result hosts edits := by
  cases h with
  | nameless fault =>
    have hname : a.name = .error fault := (hanswered (nameRead (.error fault)) (by simp)).symm
    refine ⟨[], [], by rw [hname]; rfl, ?_⟩
    constructor <;> simp [Answers.Names, hname, eq_comm]
  | @blank name hblank =>
    have hname : a.name = .ok name := (hanswered (nameRead (.ok name)) (by simp)).symm
    have hnone : ∀ node, ¬ a.Names node := by
      rintro node ⟨given, hgiven, rfl, hne⟩
      cases hname.symm.trans hgiven
      exact hne hblank
    refine ⟨[], [], by rw [hname]; rfl, ?_⟩
    constructor <;> simp [hnone, hname]
  | @homeless name hne fault =>
    have hname : a.name = .ok name := (hanswered (nameRead (.ok name)) (by simp)).symm
    have hhost : a.host = .error fault := (hanswered (hostRead (.error fault)) (by simp)).symm
    refine ⟨[hostRead (.error fault)], [], by rw [hname]; rfl, ?_⟩
    constructor <;> simp [a.names_iff hname hne, Answers.Places, hname, hhost, eq_comm]
  | @misplaced name raw hne hplace =>
    have hname : a.name = .ok name := (hanswered (nameRead (.ok name)) (by simp)).symm
    have hhost : a.host = .ok raw := (hanswered (hostRead (.ok raw)) (by simp)).symm
    refine ⟨[hostRead (.ok raw)], [], by rw [hname]; rfl, ?_⟩
    constructor <;> simp [a.names_iff hname hne, Answers.Places, hname, hhost, hplace]
  | @labeled name raw p hne hplace =>
    have hname : a.name = .ok name := (hanswered (nameRead (.ok name)) (by simp)).symm
    have hhost : a.host = .ok raw := (hanswered (hostRead (.ok raw)) (by simp)).symm
    have hverdict : a.verdict = .ok () :=
      (hanswered (patched (Text.trim name) p.labels (.ok ())) (by simp)).symm
    refine ⟨[hostRead (.ok raw)], [patched (Text.trim name) p.labels (.ok ())],
      by rw [hname]; rfl, ?_⟩
    constructor <;>
      simp [a.names_iff hname hne, a.places_iff hhost hplace, hname, hhost, hverdict,
        p.entries_labels]
    exact fun node q => ⟨fun h => ⟨h.1.symm, h.2.symm, h.1.symm⟩, fun h => ⟨h.1.symm, h.2.1.symm⟩⟩
  | @refused name raw p hne hplace failure =>
    have hname : a.name = .ok name := (hanswered (nameRead (.ok name)) (by simp)).symm
    have hhost : a.host = .ok raw := (hanswered (hostRead (.ok raw)) (by simp)).symm
    have hverdict : a.verdict = .error failure :=
      (hanswered (patched (Text.trim name) p.labels (.error failure)) (by simp)).symm
    refine ⟨[hostRead (.ok raw)], [patched (Text.trim name) p.labels (.error failure)],
      by rw [hname]; rfl, ?_⟩
    constructor <;>
      simp [a.names_iff hname hne, a.places_iff hhost hplace, hname, hhost, hverdict,
        p.entries_labels]
    exact fun node given => ⟨fun h => ⟨h.1.symm, h.2.symm⟩, fun h => ⟨h.1.symm, h.2.symm⟩⟩

/-! ## Many cycles -/

/-- One cycle of a script: whether it is reported and counted, the answers that it gets, and the
time that the clock shows. -/
structure Entry where
  isCounted : Bool
  answers : Answers
  time : Int

/-- What a call does to the metrics. -/
def note (time : Int) : Call → Metrics → Metrics
  | .count o, m => m.count o
  | .stampSuccess, m => m.stamp time
  | _, m => m

namespace Entry

def job (e : Entry) : Dialogue port (Except LabelFault Update) :=
  if e.isCounted then update else cycle

def reply (e : Entry) (c : port.Call) (m : Metrics) : port.Reply c × Metrics :=
  (e.answers.answer c, note e.time c m)

/-- The cycle, run when the metrics are `m`. -/
def play (e : Entry) (m : Metrics) : Transcript port Metrics (Except LabelFault Update) :=
  e.job.run e.reply m

def log (e : Entry) (m : Metrics) : List (Exchange port) := e.job.exchanges e.reply m

end Entry

/-- The metrics after the cycles of a script. -/
def play (script : List Entry) (m : Metrics) : Metrics :=
  script.foldl (fun m e => (e.play m).state) m

/-- How many patches were accepted. -/
def accepted (log : List (Exchange port)) : Nat :=
  log.countP fun
    | ⟨Call.patch _ _, .ok _⟩ => true
    | _ => false

theorem Cycled.note_log {result : Except LabelFault Update} {log : List (Exchange port)}
    (h : Cycled result log) (time : Int) (m : Metrics) :
    log.foldl (fun m x => note time x.1 m) m = m := by
  cases h <;> rfl

theorem Cycled.accepted_eq {result : Except LabelFault Update} {log : List (Exchange port)}
    (h : Cycled result log) : accepted log = if outcome result = .labeled then 1 else 0 := by
  cases h <;> rfl

/-- What a counted cycle with this result leaves of the metrics. -/
def noted (time : Int) (result : Except LabelFault Update) (m : Metrics) : Metrics :=
  (notes result).foldl (fun m x => note time x.1 m) m

theorem counted_noted {m : Metrics} (h : m.Ordered) (time : Int) (result : Except LabelFault Update)
    (o : Outcome) : (noted time result m).counted o.text =
      m.counted o.text + if o = outcome result then 1 else 0 := by
  simp only [← Outcome.text_inj]
  cases result with
  | ok update => exact Metrics.counted_count (h.stamp time) .labeled o.text
  | error fault => exact Metrics.counted_count h _ o.text

/-- The step lemma: an entry comes to the result of the cycle alone, whatever the metrics are, and
if it is counted it notes that result. -/
theorem Entry.play_returns (e : Entry) {result : Except LabelFault Update}
    {log : List (Exchange port)}
    (hcycle : Returns (fun c _ => (e.answers.answer c, ())) cycle () result () log)
    (hcycled : Cycled result log) (m : Metrics) :
    Returns e.reply e.job m result (if e.isCounted then noted e.time result m else m)
      (log ++ if e.isCounted then notes result else []) := by
  obtain ⟨t, hrun⟩ : ∃ t, Returns e.reply cycle m result t log :=
    Returns.of_answers (fun _ _ => rfl) hcycle m
  have hcalm : log.foldl (fun m x => (e.reply x.1 m).2) m = m := hcycled.note_log e.time m
  unfold Entry.job
  cases e.isCounted with
  | false =>
    have ht : t = m := hrun.state_eq.trans hcalm
    simpa [ht] using hrun
  | true =>
    obtain ⟨u, hcounted⟩ := update_of_cycle e.reply hrun
    have hu : u = noted e.time result m := by
      rw [hcounted.state_eq, List.foldl_append, hcalm]
      rfl
    simpa [hu] using hcounted

theorem play_append_singleton (before : List Entry) (e : Entry) (m : Metrics) :
    play (before ++ [e]) m = (e.play (play before m)).state := by
  simp [play]

theorem ordered_play {result : Answers → Except LabelFault Update}
    (hstate : ∀ (e : Entry) m, (e.play m).state =
      if e.isCounted then noted e.time (result e.answers) m else m)
    (script : List Entry) {m : Metrics} (h : m.Ordered) : (play script m).Ordered := by
  refine List.foldlRecOn script _ h fun m hm e _ => ?_
  rw [hstate]
  split
  · cases result e.answers with
    | ok update => exact (hm.stamp e.time).count .labeled
    | error fault => exact hm.count _
  · exact hm

/-- The run lemma: what goes up by `f e` with every entry `e` goes up by the sum of these. -/
theorem play_measure {result : Answers → Except LabelFault Update}
    (hstate : ∀ (e : Entry) m, (e.play m).state =
      if e.isCounted then noted e.time (result e.answers) m else m)
    (measure : Metrics → Nat) (f : Entry → Nat)
    (h : ∀ e m, m.Ordered → e.isCounted →
      measure (noted e.time (result e.answers) m) = measure m + f e)
    (script : List Entry) {m : Metrics} (hm : m.Ordered) :
    measure (play script m) = measure m + ((script.filter (·.isCounted)).map f).sum := by
  induction script generalizing m with
  | nil => rfl
  | cons e script ih =>
    have hnext : (e.play m).state.Ordered := ordered_play hstate [e] hm
    have hrest := ih hnext
    have hplay : play (e :: script) m = play script (e.play m).state := rfl
    rw [hplay, hrest, hstate]
    by_cases he : e.isCounted = true
    · rw [if_pos he, h e m hm he, List.filter_cons_of_pos he, List.map_cons, List.sum_cons]
      exact Nat.add_assoc _ _ _
    · rw [if_neg he, List.filter_cons_of_neg he]

/-- What a cycle asks, writes and comes to follows from its own answers, whatever ran before it. A
counted one then notes its result, which moves the count of its outcome by one, and no other count,
and stamps the time if it succeeded; one that is not counted leaves the metrics alone. So over a
script the four counts go up by the number of counted cycles, and the count of the labeled ones by
the number of patches that these got accepted. -/
theorem script_accounts :
    ∃ (result : Answers → Except LabelFault Update) (work : Answers → List (Exchange port)),
      (∀ a, ∃ hosts edits, work a = nameRead a.name :: (hosts ++ edits) ∧
        Accounts a (result a) hosts edits) ∧
      ∀ (script : List Entry) (m : Metrics), m.Ordered →
        (∀ before e after, script = before ++ e :: after →
          (e.play (play before m)).value = .ok (result e.answers) ∧
          e.log (play before m) =
            work e.answers ++ (if e.isCounted then notes (result e.answers) else []) ∧
          (e.isCounted = false → play (before ++ [e]) m = play before m) ∧
          (e.isCounted = true →
            (∀ o : Outcome, (play (before ++ [e]) m).counted o.text =
              (play before m).counted o.text + if o = outcome (result e.answers) then 1 else 0) ∧
            (play (before ++ [e]) m).lastSuccess =
              if outcome (result e.answers) = .labeled then e.time
              else (play before m).lastSuccess)) ∧
        (play script m).total = m.total + script.countP (·.isCounted) ∧
        (play script m).counted Outcome.labeled.text = m.counted Outcome.labeled.text +
          ((script.filter (·.isCounted)).map fun e => accepted (work e.answers)).sum := by
  have hcycles (a : Answers) : ∃ result log,
      Returns (fun c _ => (a.answer c, ())) cycle () result () log ∧ Cycled result log := by
    obtain ⟨result, t, log, hcycle, hcycled⟩ := cycle_cycled (fun c _ => (a.answer c, ())) ()
    exact ⟨result, log, hcycle, hcycled⟩
  obtain ⟨result, hresult⟩ := Classical.skolem.1 hcycles
  obtain ⟨work, hwork⟩ := Classical.skolem.1 hresult
  have hplay (e : Entry) (m : Metrics) := e.play_returns (hwork e.answers).1 (hwork e.answers).2 m
  have hstate (e : Entry) (m : Metrics) : (e.play m).state = _ := (hplay e m).state
  refine ⟨result, work, fun a => ?_, fun script m hm => ⟨?_, ?_, ?_⟩⟩
  · exact (hwork a).2.accounts fun x hx => (hwork a).1.answered (fun _ _ => rfl) hx
  · rintro before e after rfl
    have hbefore : (play before m).Ordered := ordered_play hstate before hm
    rw [play_append_singleton, hstate]
    refine ⟨(hplay e _).value, (hplay e _).exchanges, fun he => ?_, fun he => ?_⟩
    · rw [he]
      rfl
    · rw [if_pos he]
      refine ⟨counted_noted hbefore e.time _, ?_⟩
      · cases result e.answers with
        | ok update => rfl
        | error fault => cases fault <;> rfl
  · rw [play_measure hstate Metrics.total (fun _ => 1) (fun e m hm _ => ?_) script hm,
      List.map_const', List.sum_replicate_nat, List.countP_eq_length_filter, Nat.mul_one]
    cases result e.answers with
    | ok update => exact Metrics.total_count (hm.stamp e.time) .labeled
    | error fault => exact Metrics.total_count hm _
  · refine play_measure hstate (fun m => m.counted Outcome.labeled.text) _ (fun e m hm _ => ?_)
      script hm
    rw [counted_noted hm, (hwork e.answers).2.accepted_eq]
    simp only [eq_comm]

/-- Cycles that end in five ways and one that is not counted. -/
def mixedScript : List Entry :=
  let gone : Except SourceFault String := .error (.status "instance" 404)
  [{ isCounted := true, time := 10, answers := { name := gone, host := gone, verdict := .ok () } },
    { isCounted := true, time := 20
      answers := { name := .ok " \n", host := .ok "/c/r/h", verdict := .ok () } },
    { isCounted := true, time := 30
      answers := { name := .ok "n", host := .ok "/c//h", verdict := .ok () } },
    { isCounted := true, time := 40
      answers := { name := .ok "n", host := .ok "/c/r/h", verdict := .error (.ofText "refused") } },
    { isCounted := true, time := 50
      answers := { name := .ok " n\n", host := .ok "/c/r/h ", verdict := .ok () } },
    { isCounted := false, time := 60
      answers := { name := .ok "n", host := .ok "/c/r/h", verdict := .ok () } }]

/-- Of five counted cycles one gets its patch accepted. -/
theorem script_accounts_mixedScript :
    ({} : Metrics).Ordered ∧
    (∃ work : Answers → List (Exchange port), (play mixedScript {}).total = 0 + 5 ∧
      (play mixedScript {}).counted "labeled" =
        0 + ((mixedScript.filter (·.isCounted)).map fun e => accepted (work e.answers)).sum) ∧
    play mixedScript {} = Metrics.mk
      [("labeled", 1), ("malformed", 2), ("patch_failed", 1), ("unavailable", 1)] 50 := by
  obtain ⟨result, work, -, hscript⟩ := script_accounts
  obtain ⟨-, htotal, hlabeled⟩ := hscript mixedScript {} .fresh
  exact ⟨.fresh, ⟨work, htotal, hlabeled⟩, by decide +kernel⟩

end NodeLabels.Topology
