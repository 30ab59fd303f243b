import NodeLabels.Program
import NodeLabels.Proofs.Dialogue.Exchange
import NodeLabels.Proofs.Prediction.Answers
import NodeLabels.Proofs.Prediction.Parts
import NodeLabels.Proofs.Window
/-!
# The windows of a pass

A pass reads the clock right before each query and at no other time, and the query is for the window
that ends at the reading. Which window that is depends on the length in the configuration. The check
of the configuration rules out a length of zero, but neither a length that gets past the beginning
of the calendar, on which the pass is halted, nor one that does not count, with which the window is
empty all the same.
-/

namespace NodeLabels.Prediction

open Calendar (Date Instant)
open Dialogue (Exchange Returns)
open Window (Fits longest)

/-- The call has no part in the windows. -/
def Undated (c : port.Call) : Prop :=
  match c with
  | .now | .series _ _ _ => False
  | .listNodes _ | .instanceId _ _ _ | .patch _ _ => True

/-- A reading of the clock. -/
def reading (stop : Instant) : Exchange port := ⟨Call.now, stop⟩

def query (settings : Settings) (id : String) (window : Window)
    (answer : Except SourceFault (List Series)) : Exchange port :=
  ⟨Call.series settings.project id window, answer⟩

/-- What a run with these settings came to and exchanged: each reading of the clock led to the query
for the window that ends there, or to a halt if there is no such window, and there were no other
queries and no other halts. -/
inductive Dated (settings : Settings) {α : Type} : Except Halt α → List (Exchange port) → Prop
  | done (a : α) : Dated settings (.ok a) []
  | undated {x : Exchange port} {v : Except Halt α} {log : List (Exchange port)}
      (hx : Undated x.1) (h : Dated settings v log) : Dated settings v (x :: log)
  | queried {stop : Instant} {window : Window} {v : Except Halt α} {log : List (Exchange port)}
      (hwindow : Window.endingAt? stop settings.window = some window) (id : String)
      (answer : Except SourceFault (List Series)) (h : Dated settings v log) :
      Dated settings v (reading stop :: query settings id window answer :: log)
  | halted {stop : Instant} (hwindow : Window.endingAt? stop settings.window = none) :
      Dated settings (.error .dateOutOfRange) [reading stop]

/-- The dialogue is dated in every run. -/
def Dates (settings : Settings) {α : Type} (d : Dialogue port α) : Prop :=
  ∀ (σ : Type) (reply : (c : port.Call) → σ → port.Reply c × σ) (s : σ),
    Dated settings (d.run reply s).value (d.exchanges reply s)

section

variable {settings : Settings} {α β : Type} {v : Except Halt α} {w : Except Halt β}
  {log more before after : List (Exchange port)} {stop : Instant}

theorem Dated.append {a : α} (h : Dated settings v log) (hv : v = .ok a)
    (hmore : Dated settings w more) : Dated settings w (log ++ more) := by
  induction h with
  | done a => exact hmore
  | undated hx _ ih => exact .undated hx (ih hv)
  | queried hwindow id answer _ ih => exact .queried hwindow id answer (ih hv)
  | halted hwindow => cases hv

theorem Dated.of_error {why : Halt} (h : Dated settings v log) (hv : v = .error why) :
    Dated settings (.error why : Except Halt β) log := by
  induction h with
  | done a => cases hv
  | undated hx _ ih => exact .undated hx (ih hv)
  | queried hwindow id answer _ ih => exact .queried hwindow id answer (ih hv)
  | halted hwindow =>
    cases hv
    exact .halted hwindow

/-- After a reading of the clock stands the query for its window, or nothing. -/
theorem Dated.after_reading (h : Dated settings v log)
    (hlog : log = before ++ reading stop :: after) :
    (∃ window id answer rest, Window.endingAt? stop settings.window = some window ∧
      after = query settings id window answer :: rest) ∨
    (Window.endingAt? stop settings.window = none ∧ after = [] ∧ v = .error .dateOutOfRange) := by
  induction h generalizing before with
  | done a => simp at hlog
  | undated hx _ ih =>
    cases before with
    | nil =>
      obtain ⟨rfl, -⟩ := List.cons.inj hlog
      exact hx.elim
    | cons x before => exact ih (List.cons.inj hlog).2
  | queried hwindow id answer _ ih =>
    -- the log is split at the reading, at its query, or after both
    rcases before with - | ⟨x, - | ⟨y, before⟩⟩
    · obtain ⟨hstop, rfl⟩ := List.cons.inj hlog
      obtain rfl : _ = stop := eq_of_heq (Sigma.mk.inj hstop).2
      exact .inl ⟨_, id, answer, _, hwindow, rfl⟩
    · obtain ⟨-, hlog⟩ := List.cons.inj hlog
      obtain ⟨hcall, -⟩ := List.cons.inj hlog
      cases congrArg Sigma.fst hcall
    · obtain ⟨-, hlog⟩ := List.cons.inj hlog
      exact ih (List.cons.inj hlog).2
  | halted hwindow =>
    cases before with
    | nil =>
      obtain ⟨hstop, rfl⟩ := List.cons.inj hlog
      obtain rfl : _ = stop := eq_of_heq (Sigma.mk.inj hstop).2
      exact .inr ⟨hwindow, rfl, rfl⟩
    | cons x before => simp at hlog

/-- Before a query stands the reading of the clock at which its window ends. -/
theorem Dated.before_query (h : Dated settings v log) {project id : String} {window : Window}
    {answer : Except SourceFault (List Series)}
    (hlog : log = before ++ ⟨Call.series project id window, answer⟩ :: after) :
    project = settings.project ∧ ∃ stop earlier, before = earlier ++ [reading stop] ∧
      Window.endingAt? stop settings.window = some window := by
  induction h generalizing before with
  | done a => simp at hlog
  | undated hx _ ih =>
    cases before with
    | nil =>
      obtain ⟨rfl, -⟩ := List.cons.inj hlog
      exact hx.elim
    | cons x before =>
      obtain ⟨hproject, stop, earlier, rfl, hwindow⟩ := ih (List.cons.inj hlog).2
      exact ⟨hproject, stop, x :: earlier, rfl, hwindow⟩
  | queried hwindow id answer _ ih =>
    rcases before with - | ⟨x, - | ⟨y, before⟩⟩
    · cases congrArg Sigma.fst (List.cons.inj hlog).1
    · obtain ⟨rfl, hrest⟩ := List.cons.inj hlog
      obtain ⟨hcall, -⟩ := List.cons.inj hrest
      obtain ⟨rfl, rfl, rfl⟩ := Call.series.inj (congrArg Sigma.fst hcall)
      exact ⟨rfl, _, [], rfl, hwindow⟩
    · obtain ⟨-, hlog⟩ := List.cons.inj hlog
      obtain ⟨hproject, stop, earlier, rfl, hwindow⟩ := ih (List.cons.inj hlog).2
      exact ⟨hproject, stop, x :: y :: earlier, rfl, hwindow⟩
  | halted hwindow =>
    cases before with
    | nil => cases congrArg Sigma.fst (List.cons.inj hlog).1
    | cons x before => simp at hlog

/-- A halt comes from a reading of the clock without a window. -/
theorem Dated.last_of_error {why : Halt} (h : Dated settings v log) (hv : v = .error why) :
    why = .dateOutOfRange ∧ ∃ stop earlier, log = earlier ++ [reading stop] ∧
      Window.endingAt? stop settings.window = none := by
  induction h with
  | done a => cases hv
  | @undated x _ _ hx _ ih =>
    obtain ⟨hwhy, stop, earlier, rfl, hwindow⟩ := ih hv
    exact ⟨hwhy, stop, x :: earlier, rfl, hwindow⟩
  | queried hwindow id answer _ ih =>
    obtain ⟨hwhy, stop, earlier, rfl, hwindow'⟩ := ih hv
    exact ⟨hwhy, stop, _ :: _ :: earlier, rfl, hwindow'⟩
  | halted hwindow =>
    cases hv
    exact ⟨rfl, _, [], rfl, hwindow⟩

theorem Dates.bind {d : Dialogue port α} {f : α → Dialogue port β} (h : Dates settings d)
    (hf : ∀ a, Dates settings (f a)) : Dates settings (d >>= f) := by
  intro σ reply s
  have hd := h σ reply s
  cases hv : (d.run reply s).value with
  | error why =>
    rw [Dialogue.value_bind_halted hv, Dialogue.exchanges_bind_halted hv]
    exact hd.of_error hv
  | ok a =>
    have hreturns := Returns.of_value hv
    rw [hreturns.exchanges_bind, hreturns.value_bind]
    exact hd.append hv (hf a σ reply _)

theorem Dates.ask {c : port.Call} (h : Undated c) : Dates settings (.ask c) :=
  fun _ _ _ => .undated h (.done _)

/-! ## The parts of a pass -/

theorem dates_ofParts (settings : Settings) : OfParts settings fun _ d => Dates settings d where
  done a _ _ _ := .done a
  report h _ := h
  bind h hf := h.bind hf
  listNodes := .ask trivial
  instanceId _ _ := .ask trivial
  patch _ _ := .ask trivial

theorem labelInstance_dates (settings : Settings) (node : Node) (id : String) :
    Dates settings (labelInstance settings node id) := by
  intro σ reply s
  unfold labelInstance
  have hnow : Returns reply now s (reply Call.now s).1 (reply Call.now s).2
    [reading (reply Call.now s).1] := .ask rfl
  rw [hnow.exchanges_bind, hnow.value_bind]
  cases hwindow : Window.endingAt? (reply Call.now s).1 settings.window with
  | none => exact .halted hwindow
  | some window =>
    rcases hreply : reply (Call.series settings.project id window) (reply Call.now s).2 with
      ⟨answer, t⟩
    have hseries : Returns reply (series settings.project id window) (reply Call.now s).2 answer t
      [query settings id window answer] := .ask hreply
    simp only [hseries.exchanges_bind, hseries.value_bind]
    refine .queried hwindow id answer ?_
    cases answer with
    | error fault => exact (dates_ofParts settings).tell_done _ _ σ reply t
    | ok found => exact (dates_ofParts settings).applyPrediction node id found σ reply t

theorem pass_dates (settings : Settings) : Dates settings (pass settings) :=
  (dates_ofParts settings).pass (labelInstance_dates settings)

end

/-! ## Windows from the configuration -/

/-- The check of a configuration rules out an empty length. -/
theorem window_pos {config : Config} (h : config.fault? = none) :
    0 < config.predictor.window.toNanos := by
  rw [Nat.pos_iff_ne_zero, ne_eq, ← Span.isZero_iff]
  intro hzero
  rw [Config.fault?, if_pos hzero] at h
  split at h <;> cases h

/-- With a configuration that passes its check, there is a window that begins before it ends exactly
if the calendar reaches back to its start. In a pass with this configuration each query comes right
after a reading of the clock, at which its window ends, and a reading leads to one of three things:
to a query for a window of the configured length, if the calendar reaches back so far; to a halt, if
it does not; and to a query for an empty window, if the length is too long to count as one. Nothing
else halts the pass. -/
theorem pass_windows {config : Config} (hvalid : config.fault? = none) (project : String)
    {σ : Type} (reply : (c : port.Call) → σ → port.Reply c × σ) (s : σ) :
    let length := config.predictor.window
    let settings := Program.settings config project
    let v := ((pass settings).run reply s).value
    let log := (pass settings).exchanges reply s
    (∀ stop, (∃ window, Window.endingAt? stop settings.window = some window ∧
      window.start.Earlier window.stop) ↔ Fits stop length) ∧
    (∀ before stop after, log = before ++ reading stop :: after →
      (Fits stop length ∧ ∃ window id answer rest,
        after = query settings id window answer :: rest ∧ window.stop = stop ∧
        window.Spans length) ∨
      (¬ Fits stop length ∧ length.toNanos ≤ longest ∧
        after = [] ∧ v = .error .dateOutOfRange) ∨
      (longest < length.toNanos ∧ ∃ id answer rest,
        after = query settings id { start := stop, stop } answer :: rest)) ∧
    (∀ before project' id window answer after,
      log = before ++ ⟨Call.series project' id window, answer⟩ :: after →
      project' = project ∧ ∃ earlier, before = earlier ++ [reading window.stop]) ∧
    (∀ why, v = .error why → why = .dateOutOfRange ∧ ∃ stop earlier,
      log = earlier ++ [reading stop] ∧ ¬ Fits stop length ∧ length.toNanos ≤ longest) := by
  intro length settings v log
  have hpos : 0 < length.toNanos := window_pos hvalid
  have hdated : Dated settings v log := pass_dates settings σ reply s
  refine ⟨fun stop => Window.usable_iff hpos, ?_, ?_, ?_⟩
  · intro before stop after hlog
    rcases hdated.after_reading hlog with ⟨window, id, answer, rest, hwindow, rfl⟩ |
      ⟨hwindow, rfl, hv⟩
    · rcases Nat.lt_or_ge longest length.toNanos with hlong | hle
      · obtain rfl := Option.some.inj ((Window.endingAt?_of_lt hlong).symm.trans hwindow)
        exact .inr (.inr ⟨hlong, id, answer, rest, rfl⟩)
      · have hspans := Window.spans_of_le hwindow hle hpos
        have hfits : Fits stop length :=
          (Window.usable_iff hpos).1 ⟨window, hwindow, hspans.earlier⟩
        exact .inl ⟨hfits, window, id, answer, rest, rfl,
          (Window.endingAt?_eq_some_iff.1 hwindow).2, hspans⟩
    · obtain ⟨hfits, hle⟩ := Window.endingAt?_eq_none_iff.1 hwindow
      exact .inr (.inl ⟨hfits, hle, rfl, hv⟩)
  · intro before project' id window answer after hlog
    obtain ⟨rfl, stop, earlier, rfl, hwindow⟩ := hdated.before_query hlog
    obtain ⟨-, rfl⟩ := Window.endingAt?_eq_some_iff.1 hwindow
    exact ⟨rfl, earlier, rfl⟩
  · intro why hv
    obtain ⟨hwhy, stop, earlier, hlog, hwindow⟩ := hdated.last_of_error hv
    exact ⟨hwhy, stop, earlier, hlog, Window.endingAt?_eq_none_iff.1 hwindow⟩

def oneNodeWorld : (c : port.Call) → Nat → port.Reply c × Nat :=
  plainAnswers.world (.ok [gpuNode "a" "DEGRADATION_PREDICTED"]) swinging

instance : DecidableEq port.Call := inferInstanceAs (DecidableEq Call)

/-- With the defaults, the query for the instance `a` is for the quarter of an hour before it. -/
theorem pass_windows_oneNodeWorld :
    (default : Config).fault? = none ∧
    ∃ before stop window id answer after,
      (pass (Program.settings default "p")).exchanges oneNodeWorld 0 =
        before ++ reading stop :: query (Program.settings default "p") id window answer :: after ∧
      window.stop = stop ∧ window.Spans (.seconds 900) := by
  have hvalid : (default : Config).fault? = none := by decide +kernel
  obtain ⟨-, hreading, -, hhalt⟩ := pass_windows hvalid "p" oneNodeWorld 0
  have hread : (reading (.early 900)).1 ∈
      ((pass (Program.settings default "p")).run oneNodeWorld 0).calls := by
    decide +kernel
  rw [Dialogue.calls_run] at hread
  obtain ⟨⟨_, stop⟩, hmem, rfl⟩ := List.mem_map.1 hread
  obtain ⟨before, after, hlog⟩ := List.append_of_mem hmem
  have hvalue : ((pass (Program.settings default "p")).run oneNodeWorld 0).value.isOk = true := by
    decide +kernel
  refine ⟨hvalid, before, stop, ?_⟩
  rcases hreading before stop after hlog with ⟨-, window, id, answer, rest, rfl, hstop, hspans⟩ |
    ⟨-, -, -, hv⟩ | ⟨hlong, -⟩
  · exact ⟨window, id, answer, rest, hlog, hstop, hspans⟩
  · rw [hv] at hvalue
    cases hvalue
  · exact absurd hlong (by decide)

/-- 2024-05-01T12:15:00. -/
def mayNoon : Instant where
  secs := 1714565700
  inCalendar := by decide
  nanos_lt := Calendar.zero_nanos_lt
  leap := Calendar.not_leap _

def withWindow (length : Span) : Config :=
  { (default : Config) with predictor := { (default : Config).predictor with window := length } }

/-- The check lets two lengths pass that make no window with a beginning before its end: more than
300000 years, and more than 2^63 - 1 milliseconds. -/
theorem not_all_windows_usable :
    ((withWindow (.seconds 10000000000000)).fault? = none ∧
      Window.endingAt? mayNoon (.seconds 10000000000000) = none) ∧
    ((withWindow (.seconds 9223372036854776)).fault? = none ∧
      Window.endingAt? mayNoon (.seconds 9223372036854776) =
        some { start := mayNoon, stop := mayNoon }) ∧
    ¬ ∀ (config : Config) (now : Instant), config.fault? = none →
      2000 ≤ (Date.ofDays (now.secs.fdiv 86400)).year →
      (Date.ofDays (now.secs.fdiv 86400)).year ≤ 2100 →
      ∃ window, Window.endingAt? now config.predictor.window = some window ∧
        window.start.Earlier window.stop := by
  have hvalid : (withWindow (.seconds 10000000000000)).fault? = none := by decide +kernel
  have hnone : Window.endingAt? mayNoon (.seconds 10000000000000) = none :=
    Window.endingAt?_eq_none_iff.2 ⟨by decide, by decide⟩
  refine ⟨⟨hvalid, hnone⟩, ⟨by decide +kernel, Window.endingAt?_of_lt (by decide)⟩, fun h => ?_⟩
  obtain ⟨window, hwindow, -⟩ := h _ mayNoon hvalid (by decide) (by decide)
  cases hnone.symm.trans hwindow

end NodeLabels.Prediction
