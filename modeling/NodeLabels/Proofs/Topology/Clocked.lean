import NodeLabels.Proofs.Topology.Cadence
import NodeLabels.Topology.Race
/-!
# The job on its clock as a run against its stop flag

The clock lets the job go on until it waits, and lets it look at the flag after every happening.
That is one way for the two to go among many: every state of the job on its clock is a state that a
run of the relation comes to (`attuned_of_mem_trace`).
-/

namespace NodeLabels.Topology.Race

open Clockwork (afterPause milliseconds proceed)

variable {σ : Type} (reply : (c : Call) → σ → port.Reply c × σ) {patience : Nat} {interval : Span}
  {allowed : Act → Prop} {seen : Bool} {c : Clockwork σ} {r s t : Race}

theorem Reaches.trans (h : Reaches patience interval allowed r s)
    (h' : Reaches patience interval allowed s t) : Reaches patience interval allowed r t := by
  induction h' with
  | refl => exact h
  | step _ ha hs ih => exact ih.step ha hs

theorem Step.reaches {a : Act} (h : Step patience interval r a s) (ha : allowed a) :
    Reaches patience interval allowed r s :=
  .step .refl ha h

theorem goOn_report (r : Race) (e : Event) (d : Dialogue port Unit) :
    r.goOn (.report e d) = { r with events := r.events ++ [e] }.goOn d := by
  simp [goOn, arrive]

theorem goOn_start (r : Race) : r.goOn (watch patience interval) =
    { r with events := r.events ++ [startEvent interval] }.goOn (repeatCycles interval patience) :=
  goOn_report r _ _

/-- Where a stage of the clock is, a pause not having been looked at. -/
def placeOf : Stage → Place
  | .waiting pause => .waiting pause false
  | .ended result => .ended result

/-- A job whose calls are answered comes to its next pause. -/
theorem reaches_proceed (hanswer : allowed .answer) (d : Dialogue port Unit) (w : σ) (r : Race) :
    Reaches patience interval allowed (r.goOn d)
      { place := placeOf (proceed reply r.flag d w r.events).stage
        flag := r.flag
        events := (proceed reply r.flag d w r.events).events } := by
  induction d generalizing w r with
  | done x =>
    simp only [goOn, arrive, proceed, placeOf, List.append_nil]
    exact .refl
  | halt why =>
    simp only [goOn, arrive, proceed, placeOf, List.append_nil]
    exact .refl
  | report e d ih =>
    rw [goOn_report]
    exact ih w { r with events := r.events ++ [e] }
  | call c k ih =>
    have hcall (hworking : (arrive (.call c k)).2 = .working c k)
        (hevents : (arrive (.call c k)).1 = []) :
        Reaches patience interval allowed (r.goOn (.call c k)) (r.goOn (k (reply c w).1)) := by
      have hstep : Step patience interval (r.goOn (.call c k)) .answer
          ((r.goOn (.call c k)).goOn (k (reply c w).1)) := .answer hworking _
      have hsame : (r.goOn (.call c k)).goOn (k (reply c w).1) = r.goOn (k (reply c w).1) := by
        simp only [goOn, hevents, List.append_nil]
      rw [hsame] at hstep
      exact hstep.reaches hanswer
    cases c with
    | pause interval =>
      simp only [goOn, arrive, proceed, placeOf, List.append_nil]
      exact .refl
    | instanceName => exact (hcall rfl rfl).trans (ih _ _ r)
    | physicalHost => exact (hcall rfl rfl).trans (ih _ _ r)
    | patch node labels => exact (hcall rfl rfl).trans (ih _ _ r)
    | count o => exact (hcall rfl rfl).trans (ih _ _ r)
    | stampSuccess => exact (hcall rfl rfl).trans (ih _ _ r)

/-- A job that may run another cycle runs it and comes to the pause after it. -/
theorem reaches_pause (hanswer : allowed .answer) (m : Nat) (w : σ) (r : Race) :
    Reaches patience interval allowed (r.goOn (repeatCycles interval (m + 1)))
      { place := .waiting { left := milliseconds interval, resume := afterPause interval m } false
        flag := r.flag
        events := r.events ++ cycleEvent :: (update.run reply w).events } := by
  have hrun : Reaches patience interval allowed (r.goOn (repeatCycles interval (m + 1))) _ :=
    reaches_proceed reply hanswer _ w r
  rw [Clockwork.proceed_repeatCycles] at hrun
  exact hrun

/-- The job in a pause after so many cycles. -/
def paused (patience : Nat) (interval : Span) (w : σ) (n left : Nat) (seen : Bool)
    (flag : StopFlag) : Race where
  place := .waiting { left, resume := afterPause interval (patience - n) } seen
  flag
  events := startEvent interval :: (rounds reply w n).2

theorem cycles_paused (w : σ) (n left : Nat) (flag : StopFlag) :
    (paused reply patience interval w n left seen flag).cycles = n := by
  have hcount : (startEvent interval :: (rounds reply w n).2).count cycleEvent = n := by
    rw [Clockwork.count_startEvent_cons, count_rounds]
  exact hcount

theorem reaches_paused_one (hstart : allowed .start) (hanswer : allowed .answer)
    (hpatience : 0 < patience) (w : σ) (value : Bool) :
    Reaches patience interval allowed (before value)
      (paused reply patience interval w 1 (milliseconds interval) false { value }) := by
  obtain ⟨m, rfl⟩ := Nat.exists_eq_succ_of_ne_zero (Nat.ne_of_gt hpatience)
  have hstep : Step (m + 1) interval (before value) .start _ := .start rfl
  rw [goOn_start] at hstep
  exact (hstep.reaches hstart).trans (reaches_pause reply hanswer m w _)

/-- Where the time of a pause has come, the next cycle may be run. -/
theorem reaches_paused_succ (hdue : allowed .due) (hanswer : allowed .answer) (w : σ) {n : Nat}
    (hn : n < patience) (flag : StopFlag) :
    Reaches patience interval allowed (paused reply patience interval w n 0 seen flag)
      (paused reply patience interval w (n + 1) (milliseconds interval) false flag) := by
  obtain ⟨m, hm⟩ : ∃ m, patience - n = m + 1 := ⟨patience - n - 1, by omega⟩
  have hrest : patience - (n + 1) = m := by omega
  have hstep : Step patience interval (paused reply patience interval w n 0 seen flag) .due _ :=
    @Step.due _ _ _ ⟨0, afterPause interval (patience - n)⟩ seen rfl rfl
  have hcycle : Reaches patience interval allowed
      ((paused reply patience interval w n 0 seen flag).goOn (repeatCycles interval (m + 1)))
      (paused reply patience interval w (n + 1) (milliseconds interval) false flag) := by
    unfold paused
    rw [hrest]
    exact reaches_pause reply hanswer m (rounds reply w n).1 _
  rw [← hm] at hcycle
  exact (hstep.reaches hdue).trans hcycle

/-- A pause that nothing happens in is looked at and comes to its end. -/
theorem reaches_paused_zero (hlook : allowed .look) (helapse : ∀ ms, allowed (.elapse ms))
    (hpos : 0 < milliseconds interval) (w : σ) (n : Nat) {flag : StopFlag} (hflag : flag.Quiet) :
    Reaches patience interval allowed
      (paused reply patience interval w n (milliseconds interval) false flag)
      (paused reply patience interval w n 0 true flag) := by
  have hstep : Step patience interval
      (paused reply patience interval w n (milliseconds interval) false flag) .look _ :=
    .look rfl hpos hflag.look?
  have hover : Step patience interval
      (paused reply patience interval w n (milliseconds interval) true flag)
      (.elapse (milliseconds interval)) _ :=
    @Step.elapse _ _ _ ⟨milliseconds interval, afterPause interval (patience - n)⟩ rfl _
  simp only [Nat.sub_self] at hover
  exact (hstep.reaches hlook).trans (hover.reaches (helapse _))

/-! ## The same state on both sides -/

/-- The job is at the same point, the pause it may be in having been looked at or not. Once the job
has ended nobody looks at the flag. -/
inductive Beside (interval : Span) (seen : Bool) (c : Clockwork σ) (r : Race) : Prop
  | waiting {left m : Nat}
      (hstage : c.stage = .waiting { left, resume := afterPause interval m })
      (hplace : r.place = .waiting { left, resume := afterPause interval m } seen)
      (hleft : 0 < left) (hflag : r.flag = c.flag) (hevents : r.events = c.events)
  | ended {result : Except Halt Unit} (hstage : c.stage = .ended result)
      (hplace : r.place = .ended result) (hevents : r.events = c.events)

/-- At the same point, and nothing is left to see while the job waits. -/
structure Attuned (interval : Span) (c : Clockwork σ) (r : Race) : Prop where
  beside : Beside interval true c r
  quiet : c.isRunning = true → c.flag.Quiet

/-- The race can go on to a state that is at the same point as this one of the clock. -/
def Follows (patience : Nat) (interval : Span) (r : Race) (c : Clockwork σ) : Prop :=
  ∃ s, Reaches patience interval (fun _ => True) r s ∧ Attuned interval c s

theorem Follows.of_reaches (h : Reaches patience interval (fun _ => True) r s)
    (hs : Follows patience interval s c) : Follows patience interval r c := by
  obtain ⟨t, hst, hattuned⟩ := hs
  exact ⟨t, h.trans hst, hattuned⟩

/-- A look at a pause that nothing has happened in. -/
theorem Beside.look (h : Beside interval seen c r) (hquiet : c.flag.Quiet) :
    Follows patience interval r c := by
  cases h with
  | waiting hstage hplace hleft hflag hevents =>
    have hstep : Step patience interval r .look _ := .look hplace hleft (hflag ▸ hquiet.look?)
    exact ⟨_, hstep.reaches trivial, .waiting hstage rfl hleft hflag hevents, fun _ => hquiet⟩
  | ended hstage hplace hevents =>
    exact ⟨r, .refl, .ended hstage hplace hevents, fun _ => hquiet⟩

section

variable (hpos : 0 < milliseconds interval)

include hpos

/-- The cycle after a pause ends in the next pause, which begins, or there is no patience for it. -/
theorem beside_repeatCycles (m : Nat) (w : σ) (r : Race) :
    ∃ s, Reaches patience interval (fun _ => True) (r.goOn (repeatCycles interval m)) s ∧
      Beside interval false (proceed reply r.flag (repeatCycles interval m) w r.events) s ∧
      (proceed reply r.flag (repeatCycles interval m) w r.events).flag = r.flag := by
  cases m with
  | zero => exact ⟨_, .refl, .ended rfl rfl (List.append_nil _), rfl⟩
  | succ m =>
    rw [Clockwork.proceed_repeatCycles]
    exact ⟨_, reaches_pause reply trivial m w r, .waiting rfl rfl hpos rfl rfl, rfl⟩

/-- What comes after a pause, once there is nothing more to see or the job is to stop. -/
theorem follows_afterPause {sign : Wake} (hquiet : sign.stops = false → r.flag.Quiet) (m : Nat)
    (w : σ) : Follows patience interval (r.goOn (afterPause interval m sign))
      (proceed reply r.flag (afterPause interval m sign) w r.events) := by
  unfold afterPause
  cases hsign : sign.stops with
  | true => exact ⟨_, .refl, .ended rfl rfl rfl, nofun⟩
  | false =>
    rw [if_neg Bool.false_ne_true]
    obtain ⟨s, hrs, hbeside, hflag⟩ := beside_repeatCycles reply hpos m w r
    refine .of_reaches hrs (hbeside.look ?_)
    rw [hflag]
    exact hquiet hsign

theorem follows_wake {left m : Nat} {sign : Wake}
    (hstage : c.stage = .waiting { left, resume := afterPause interval m })
    (hflag : r.flag = c.flag) (hevents : r.events = c.events)
    (hquiet : sign.stops = false → c.flag.Quiet) :
    Follows patience interval (r.goOn (afterPause interval m sign)) (c.wake reply sign) := by
  simp only [Clockwork.wake, hstage, ← hflag, ← hevents]
  exact follows_afterPause reply hpos (fun hsign => hflag ▸ hquiet hsign) m c.world

/-- A look at the flag, which holds no news of two kinds at once. -/
theorem Beside.settle (h : Beside interval seen c r)
    (hflag : c.isRunning = true → c.flag.unseen = false ∨ c.flag.orphaned = false) :
    Follows patience interval r (c.settle reply) := by
  unfold Clockwork.settle
  cases hlook : c.flag.look? with
  | none => exact h.look (StopFlag.look?_eq_none_iff.1 hlook)
  | some news =>
    obtain ⟨sign, flag⟩ := news
    cases h with
    | ended hstage hplace hevents =>
      simp only [Clockwork.wake, hstage]
      exact ⟨r, .refl, .ended rfl hplace hevents, fun h => absurd h Bool.false_ne_true⟩
    | waiting hstage hplace hleft hflag' hevents =>
      have hrunning : c.isRunning = true := by rw [Clockwork.isRunning, hstage]
      have hstep : Step patience interval r (.notice sign) _ := .notice hplace (hflag'.symm ▸ hlook)
      have hquiet := StopFlag.quiet_of_look? hlook (hflag hrunning)
      exact .of_reaches (hstep.reaches trivial)
        (follows_wake reply hpos (c := { c with flag }) hstage rfl hevents hquiet)

/-! ## What happens to the job -/

namespace Attuned

theorem advance (h : Attuned interval c r) (ms : Nat) :
    Follows patience interval r (c.advance reply ms) := by
  -- The time is used up pause by pause, each of a positive length.
  induction ms using Nat.strongRecOn generalizing c r with
  | ind ms ih =>
    obtain ⟨hbeside, hquiet⟩ := h
    rw [Clockwork.advance]
    cases hbeside with
    | ended hstage hplace hevents =>
      simp only [hstage]
      exact ⟨r, .refl, .ended hstage hplace hevents, hquiet⟩
    | @waiting left m hstage hplace hleft hflag hevents =>
      have hrunning : c.isRunning = true := by rw [Clockwork.isRunning, hstage]
      simp only [hstage]
      by_cases hpass : left ≤ ms
      · have helapse : Step patience interval r (.elapse left) _ := .elapse hplace left
        let waited := { r with place := .waiting ⟨left - left, afterPause interval m⟩ true }
        have hdue : Step patience interval waited .due _ := .due rfl (Nat.sub_self left)
        have hwake : Follows patience interval (waited.goOn (afterPause interval m .due)) _ :=
          follows_wake reply hpos hstage hflag hevents fun _ => hquiet hrunning
        obtain ⟨s, hrs, hattuned⟩ := hwake
        rw [if_pos ⟨hleft, hpass⟩]
        exact .of_reaches ((helapse.reaches trivial).trans ((hdue.reaches trivial).trans hrs))
          (ih (ms - left) (by omega) hattuned)
      · have helapse : Step patience interval r (.elapse ms) _ := .elapse hplace ms
        rw [if_neg fun h => hpass h.2]
        exact ⟨_, helapse.reaches trivial,
          .waiting rfl rfl (Nat.sub_pos_of_lt (Nat.lt_of_not_le hpass)) hflag hevents,
          fun _ => hquiet hrunning⟩

/-- The flag changes, and the job looks at it if it is still there. -/
theorem settle {a : Act} {flag : StopFlag} (h : Attuned interval c r)
    (hstep : c.isRunning = true → r.flag = c.flag → Step patience interval r a { r with flag })
    (hflag : c.isRunning = true → flag.unseen = false ∨ flag.orphaned = false) :
    Follows patience interval r (Clockwork.settle reply { c with flag }) := by
  obtain ⟨hbeside, -⟩ := h
  cases hbeside with
  | ended hstage hplace hevents =>
    have hended : Beside interval true { c with flag } r := .ended hstage hplace hevents
    exact hended.settle reply hpos hflag
  | waiting hstage hplace hleft hsame hevents =>
    have hrunning : c.isRunning = true := by rw [Clockwork.isRunning, hstage]
    have hwaiting : Beside interval true { c with flag } { r with flag } :=
      .waiting hstage hplace hleft rfl hevents
    exact .of_reaches ((hstep hrunning hsame).reaches trivial)
      (hwaiting.settle reply hpos hflag)

/-- The step lemma. -/
theorem step (h : Attuned interval c r) (happening : Happening) :
    Follows patience interval r (c.step reply happening) := by
  cases happening with
  | advance ms => exact h.advance reply hpos ms
  | send stop =>
    rw [Clockwork.step]
    refine h.settle reply hpos (a := .send stop) (fun hrunning hsame => ?_) fun hrunning => ?_
    · rw [← hsame]
      exact .send (hsame ▸ (h.quiet hrunning).2) stop
    · exact .inr (h.quiet hrunning).2
  | drop =>
    rw [Clockwork.step]
    refine h.settle reply hpos (a := .drop) (fun hrunning hsame => ?_) fun hrunning => ?_
    · rw [← hsame]
      exact .drop r
    · exact .inl (h.quiet hrunning).1

end Attuned

/-! ## From the start -/

theorem follows_watch (w : σ) (r : Race) (hplace : r.place = .unstarted) (hevents : r.events = [])
    (hflag : r.flag.unseen = false ∨ r.flag.orphaned = false) :
    Follows patience interval r
      (Clockwork.settle reply (proceed reply r.flag (watch patience interval) w [])) := by
  have hstart : Step patience interval r .start (r.goOn (watch patience interval)) := .start hplace
  let started := { r with events := [startEvent interval] }
  have hwatch :
      r.goOn (watch patience interval) = started.goOn (repeatCycles interval patience) := by
    rw [goOn_start, hevents, List.nil_append]
  obtain ⟨s, hrs, hbeside, hsame⟩ := beside_repeatCycles reply hpos patience w started
  rw [hwatch] at hstart
  have hkept : (proceed reply r.flag (watch patience interval) w []).flag = r.flag := hsame
  refine .of_reaches ((hstart.reaches trivial).trans hrs) (hbeside.settle reply hpos fun _ => ?_)
  rw [hkept]
  exact hflag

theorem follows_start (initial : Bool) (sent : Option Bool) (w : σ) :
    Follows patience interval (before initial)
      (Clockwork.start reply patience interval initial sent w) := by
  cases sent with
  | none => exact follows_watch reply hpos w (before initial) rfl rfl (.inl rfl)
  | some stop =>
    have hsend : Step patience interval (before initial) (.send stop) _ := .send rfl stop
    exact .of_reaches (hsend.reaches trivial) (follows_watch reply hpos w _ rfl rfl (.inr rfl))

/-- The run lemma. -/
theorem follows_foldl (script : List Happening) (h : Follows patience interval r c) :
    Follows patience interval r (script.foldl (Clockwork.step reply) c) := by
  induction script generalizing c with
  | nil => exact h
  | cons happening script ih =>
    obtain ⟨s, hrs, hattuned⟩ := h
    exact ih (.of_reaches hrs (hattuned.step reply hpos happening))

/-- Every state of a job on its clock is one that a job comes to against its flag. -/
theorem attuned_of_mem_trace (initial : Bool) (sent : Option Bool) (w : σ)
    (script : List Happening) (hc : c ∈ Clockwork.trace reply interval initial sent w script) :
    ∃ r, Reaches (Clockwork.patienceFor interval script) interval (fun _ => True)
        (before initial) r ∧
      Attuned interval c r := by
  obtain ⟨k, hk⟩ := List.mem_iff_getElem?.1 hc
  rw [Clockwork.trace_eq_scanl, List.getElem?_scanl] at hk
  obtain ⟨-, hstate⟩ := Option.ite_none_right_eq_some.1 hk
  obtain rfl := Option.some.inj hstate
  exact follows_foldl reply hpos _ (follows_start reply hpos initial sent w)

end

end NodeLabels.Topology.Race
