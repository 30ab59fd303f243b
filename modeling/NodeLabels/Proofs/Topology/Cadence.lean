import NodeLabels.Config
import NodeLabels.Proofs.Topology.Clockwork
import NodeLabels.Proofs.Topology.Schedule
/-!
# The job keeps to its schedule

A happening is a step of the job and of its schedule. `OnTime` says that the job stands where its
schedule does; it holds at the start, every happening preserves it, and so the number of cycles that
a script brings about can be read off the times of its signs. What the flag held from the outset
plays no part.
-/

namespace NodeLabels.Topology.Clockwork

variable {σ : Type} {reply : (c : Call) → σ → port.Reply c × σ} {interval : Span}
  {patience i : Nat} {sent : Option Bool} {w : σ} {seen : List Happening} {c : Clockwork σ}

/-- The job has run the cycles that were due, and waits for the next unless it was told to stop. -/
structure OnTime (reply : (c : Call) → σ → port.Reply c × σ) (interval : Span) (patience i : Nat)
    (sent : Option Bool) (w : σ) (seen : List Happening) (c : Clockwork σ) : Prop where
  waits : stopTime? sent seen = none →
    Waits reply interval patience w (cyclesBy i sent seen)
      (i - (elapsed seen - (restarts sent seen).getLastD 0) % i) c
  stopped {t : Nat} : stopTime? sent seen = some t →
    Stopped reply interval w (cyclesBy i sent seen) c

namespace OnTime

theorem of_waits {left : Nat} (hstop : stopTime? sent seen = none)
    (h : Waits reply interval patience w (cyclesBy i sent seen) left c)
    (hleft : left = i - (elapsed seen - (restarts sent seen).getLastD 0) % i) :
    OnTime reply interval patience i sent w seen c where
  waits _ := hleft ▸ h
  stopped hsome := nomatch hstop.symm.trans hsome

theorem of_stopped {t : Nat} (hstop : stopTime? sent seen = some t)
    (h : Stopped reply interval w (cyclesBy i sent seen) c) :
    OnTime reply interval patience i sent w seen c where
  waits hnone := nomatch hstop.symm.trans hnone
  stopped _ := h

/-- The first cycle is run whatever the flag says. -/
theorem paused_watch (reply : (c : Call) → σ → port.Reply c × σ) (interval : Span) (w : σ)
    (hpatience : 0 < patience) (flag : StopFlag) :
    Paused reply interval patience w 1 (milliseconds interval)
        (proceed reply flag (watch patience interval) w []) ∧
      (proceed reply flag (watch patience interval) w []).flag = flag := by
  obtain ⟨spare, rfl⟩ : ∃ spare, patience = spare + 1 := ⟨patience - 1, by omega⟩
  change Paused reply interval _ w 1 _
      (proceed reply flag (repeatCycles interval (spare + 1)) w [startEvent interval]) ∧
    (proceed reply flag (repeatCycles interval (spare + 1)) w [startEvent interval]).flag = flag
  rw [proceed_repeatCycles]
  exact ⟨⟨rfl, rfl, rfl⟩, rfl⟩

theorem start (hi : milliseconds interval = i) (hpatience : 1 < patience) (initial : Bool)
    (sent : Option Bool) :
    OnTime reply interval patience i sent w [] (start reply patience interval initial sent w) := by
  have hpos : 0 < patience := Nat.zero_lt_of_lt hpatience
  unfold Clockwork.start
  cases sent with
  | none =>
    obtain ⟨h, hflag⟩ := paused_watch reply interval w hpos { value := initial }
    have hquiet :
        (proceed reply { value := initial } (watch patience interval) w []).flag.Quiet := by
      rw [hflag]
      exact ⟨rfl, rfl⟩
    have hcount : cyclesBy i none [] = 1 := by
      simp [cyclesBy, cycleCount, restarts, reached, stopTime?, allSigns, signs, elapsed]
    dsimp only
    unfold Clockwork.settle
    rw [hquiet.look?]
    refine of_waits rfl { hcount ▸ h with quiet := hquiet } ?_
    rw [hi]
    exact (congrArg (i - ·) (Nat.zero_mod i)).symm
  | some stop =>
    obtain ⟨h, hflag⟩ := paused_watch reply interval w hpos (StopFlag.set { value := initial } stop)
    have hlook := StopFlag.look?_set { value := initial } stop
    rw [← hflag] at hlook
    dsimp only
    cases stop with
    | true =>
      have hcount : cyclesBy i (some true) [] = 1 := by
        simp [cyclesBy, cycleCount, restarts, reached, stopTime?, allSigns, signs, Wake.stops]
      exact of_stopped rfl (hcount ▸ h.settle_stop hlook rfl)
    | false =>
      have hcount : cyclesBy i (some false) [] = 1 + 1 := by
        simp [cyclesBy, cycleCount, restarts, reached, stopTime?, allSigns, signs, Wake.stops,
          elapsed]
      refine of_waits rfl (hcount ▸ h.settle hpatience hlook rfl ⟨rfl, rfl⟩) ?_
      rw [hi]
      exact (congrArg (i - ·) (Nat.zero_mod i)).symm

/-- The step lemma: a happening moves the job as it moves the schedule. -/
theorem step (hi : milliseconds interval = i) (hpos : 0 < i) (x : Happening)
    (hpatience : patienceFor interval (seen ++ [x]) ≤ patience)
    (h : OnTime reply interval patience i sent w seen c) :
    OnTime reply interval patience i sent w (seen ++ [x]) (c.step reply x) := by
  have hcount : cyclesBy i sent (seen ++ [x]) < patience :=
    Nat.lt_of_lt_of_le (cyclesBy_lt_patienceFor hi hpos sent _) hpatience
  cases hstop : stopTime? sent seen with
  | some t =>
    refine of_stopped (stopTime?_append_of_some hstop [x]) ?_
    rw [cyclesBy_append_of_some hstop]
    exact (h.stopped hstop).step x
  | none =>
    have hwaits := h.waits hstop
    cases x with
    | advance ms =>
      obtain ⟨hstop', hrestarts⟩ := cyclesBy_advance hstop ms
      obtain ⟨base, hbase⟩ := exists_base i (restarts sent seen)
      have hsum : elapsed (seen ++ [.advance ms]) - (restarts sent seen).getLastD 0 =
          elapsed seen - (restarts sent seen).getLastD 0 + ms := by
        rw [elapsed_append]
        exact Nat.sub_add_comm lastRestart_le
      rw [cyclesBy_of_none hstop, hbase] at hwaits
      have hcycles : cyclesBy i sent (seen ++ [.advance ms]) =
          base + (elapsed seen - (restarts sent seen).getLastD 0 + ms) / i := by
        rw [cyclesBy_of_none hstop', hrestarts, hbase, hsum]
      refine of_waits hstop' ?_ rfl
      rw [hcycles] at hcount ⊢
      rw [hrestarts, hsum]
      exact hwaits.advance hi hpos (Nat.le_of_lt hcount)
    | send stop =>
      have hflag : Paused reply interval patience w (cyclesBy i sent seen)
          (i - (elapsed seen - (restarts sent seen).getLastD 0) % i)
          { c with flag := c.flag.set stop } := ⟨hwaits.world, hwaits.events, hwaits.stage⟩
      have hlook := c.flag.look?_set stop
      cases stop with
      | true =>
        obtain ⟨hstop', hsame⟩ := cyclesBy_stop (i := i) hstop (x := .send true) rfl rfl
        refine of_stopped hstop' ?_
        rw [hsame]
        exact hflag.settle_stop hlook rfl
      | false =>
        obtain ⟨hstop', hrestarts, hmore⟩ := cyclesBy_send_false (i := i) hstop
        rw [hmore] at hcount
        refine of_waits hstop' ?_ rfl
        rw [hmore, hrestarts, List.getLastD_concat, elapsed_append]
        have hzero : elapsed seen + elapsed [.send false] - elapsed seen = 0 := Nat.sub_self _
        rw [hzero, Nat.zero_mod, Nat.sub_zero]
        exact hi ▸ hflag.settle (Nat.lt_of_succ_lt hcount) hlook rfl ⟨rfl, hwaits.quiet.2⟩
    | drop =>
      have hflag : Paused reply interval patience w (cyclesBy i sent seen)
          (i - (elapsed seen - (restarts sent seen).getLastD 0) % i)
          { c with flag := c.flag.orphan } := ⟨hwaits.world, hwaits.events, hwaits.stage⟩
      obtain ⟨hstop', hsame⟩ := cyclesBy_stop (i := i) hstop (x := .drop) rfl rfl
      refine of_stopped hstop' ?_
      rw [hsame]
      exact hflag.settle_stop hwaits.quiet.look?_orphan rfl

/-- The run lemma: with patience to spare the job keeps to its schedule over any script. -/
theorem run (hi : milliseconds interval = i) (hpos : 0 < i) (initial : Bool) (sent : Option Bool)
    (script : List Happening) (hpatience : patienceFor interval script ≤ patience) :
    OnTime reply interval patience i sent w script
      (script.foldl (Clockwork.step reply)
        (Clockwork.start reply patience interval initial sent w)) := by
  induction script using List.reverseRecOn with
  | nil => exact start hi (Nat.lt_of_lt_of_le (Nat.lt_of_sub_eq_succ rfl) hpatience) initial sent
  | append_singleton script x ih =>
    rw [List.foldl_append]
    exact step hi hpos x hpatience (ih (Nat.le_trans (patienceFor_le_append script [x]) hpatience))

end OnTime

/-! ## What the job shows -/

theorem count_startEvent_cons (interval : Span) (events : List Event) :
    (startEvent interval :: events).count cycleEvent = events.count cycleEvent := by
  have hne : startEvent interval ≠ cycleEvent := by simp [startEvent, cycleEvent, event]
  exact List.count_cons_of_ne hne

namespace OnTime

theorem world (h : OnTime reply interval patience i sent w seen c) :
    c.world = (rounds reply w (cyclesBy i sent seen)).1 := by
  cases hstop : stopTime? sent seen with
  | none => exact (h.waits hstop).world
  | some t => exact (h.stopped hstop).world

theorem events (h : OnTime reply interval patience i sent w seen c) :
    c.events = startEvent interval :: (rounds reply w (cyclesBy i sent seen)).2 ++
      ((stopTime? sent seen).map fun _ => stopEvent).toList := by
  cases hstop : stopTime? sent seen with
  | none => exact (h.waits hstop).events.trans (List.append_nil _).symm
  | some t => exact (h.stopped hstop).events

theorem isRunning (h : OnTime reply interval patience i sent w seen c) :
    c.isRunning = (stopTime? sent seen).isNone := by
  cases hstop : stopTime? sent seen with
  | none => rw [Clockwork.isRunning, (h.waits hstop).stage]; rfl
  | some t => rw [Clockwork.isRunning, (h.stopped hstop).stage]; rfl

theorem ended_iff (h : OnTime reply interval patience i sent w seen c) :
    c.stage = .ended (.ok ()) ↔ (stopTime? sent seen).isSome = true := by
  cases hstop : stopTime? sent seen with
  | none => simp [(h.waits hstop).stage]
  | some t => simp [(h.stopped hstop).stage]

theorem count_events (h : OnTime reply interval patience i sent w seen c) :
    c.events.count cycleEvent = cyclesBy i sent seen := by
  have hstop : ((stopTime? sent seen).map fun _ => stopEvent).toList.count cycleEvent = 0 := by
    cases stopTime? sent seen <;> rfl
  rw [h.events, List.count_append, count_startEvent_cons, count_rounds, hstop, Nat.add_zero]

end OnTime

/-! ## The trace -/

theorem trace_eq_scanl (reply : (c : Call) → σ → port.Reply c × σ) (interval : Span)
    (initial : Bool) (sent : Option Bool) (w : σ) (script : List Happening) :
    trace reply interval initial sent w script =
      script.scanl (step reply)
        (start reply (patienceFor interval script) interval initial sent w) := by
  have hfold (script : List Happening) (done : List (Clockwork σ)) (c : Clockwork σ) :
      (script.foldl (fun p h => (step reply p.2 h :: p.1, step reply p.2 h))
        (c :: done, c)).1.reverse = done.reverse ++ script.scanl (step reply) c := by
    induction script generalizing done c with
    | nil => rw [List.foldl_nil, List.reverse_cons, List.scanl_nil]
    | cons x script ih =>
      rw [List.foldl_cons, ih, List.reverse_cons, List.scanl_cons, List.append_assoc]
      rfl
  exact hfold script [] _

/-- The state after `k` happenings keeps to the schedule of those. -/
theorem onTime_of_trace (hi : milliseconds interval = i) (hpos : 0 < i) {initial : Bool}
    {script : List Happening} {k : Nat}
    (h : (trace reply interval initial sent w script)[k]? = some c) :
    OnTime reply interval (patienceFor interval script) i sent w (script.take k) c := by
  rw [trace_eq_scanl, List.getElem?_scanl] at h
  obtain ⟨-, hc⟩ := Option.ite_none_right_eq_some.1 h
  obtain rfl := Option.some.inj hc
  refine OnTime.run hi hpos initial sent _ ?_
  conv => rhs; rw [← List.take_append_drop k script]
  exact patienceFor_le_append _ _

/-- A configuration that passes its check has an interval that lasts. -/
theorem milliseconds_pos (config : Config) (h : config.fault? = none) :
    0 < milliseconds config.topology.interval := by
  have hzero : config.topology.interval.isZero ≠ true := by
    intro hzero
    rw [Config.fault?, if_pos hzero] at h
    exact nomatch h
  have hnanos : config.topology.interval.toNanos ≠ 0 := fun h => hzero (Span.isZero_iff.2 h)
  unfold milliseconds
  omega

/-- The number of cycles is that of the schedule, the job ends when it is told to and never
otherwise, the end is final, and what the flag held from the outset makes no difference. -/
theorem trace_cadence (reply : (c : Call) → σ → port.Reply c × σ) (interval : Span)
    (hpos : 0 < milliseconds interval) (initial : Bool) (sent : Option Bool) (w : σ)
    (script : List Happening) :
    (trace reply interval initial sent w script).length = script.length + 1 ∧
    (∀ k c, (trace reply interval initial sent w script)[k]? = some c →
      let seen := script.take k
      let n := cyclesBy (milliseconds interval) sent seen
      c.events.count cycleEvent = n ∧ 1 ≤ n ∧ c.world = (rounds reply w n).1 ∧
      (c.stage = .ended (.ok ()) ↔ sent = some true ∨ .send true ∈ seen ∨ .drop ∈ seen) ∧
      (c.isRunning = true ↔ ¬ (sent = some true ∨ .send true ∈ seen ∨ .drop ∈ seen))) ∧
    (∀ (k k' : Nat) (c c' : Clockwork σ), k ≤ k' →
      (trace reply interval initial sent w script)[k]? = some c →
      (trace reply interval initial sent w script)[k']? = some c' → c.isRunning = false →
      c'.world = c.world ∧ c'.events = c.events ∧ c'.isRunning = false) ∧
    ∀ initial', (trace reply interval initial' sent w script).map
        (fun c => (c.world, c.events, c.isRunning)) =
      (trace reply interval initial sent w script).map
        fun c => (c.world, c.events, c.isRunning) := by
  generalize hi : milliseconds interval = i at hpos ⊢
  have hlength (initial : Bool) :
      (trace reply interval initial sent w script).length = script.length + 1 := by
    rw [trace_eq_scanl, List.length_scanl]
  refine ⟨hlength initial, fun k c hc => ?_, fun k k' c c' hk hc hc' hended => ?_,
    fun initial' => ?_⟩
  · have h := onTime_of_trace hi hpos hc
    refine ⟨h.count_events, one_le_cyclesBy, h.world, ?_, ?_⟩
    · rw [h.ended_iff, stopTime?_isSome]
    · rw [h.isRunning, ← stopTime?_isSome, Option.isNone_iff_eq_none, Option.not_isSome_iff_eq_none]
  · have h := onTime_of_trace hi hpos hc
    have h' := onTime_of_trace hi hpos hc'
    obtain ⟨t, hstop⟩ : ∃ t, stopTime? sent (script.take k) = some t := by
      simpa [h.isRunning, Option.isSome_iff_exists] using hended
    obtain ⟨more, hmore⟩ : ∃ more, script.take k' = script.take k ++ more := by
      have htake : (script.take k').take k = script.take k := by
        rw [List.take_take, Nat.min_eq_left hk]
      exact ⟨_, htake ▸ (List.take_append_drop k (script.take k')).symm⟩
    have hstop' := stopTime?_append_of_some hstop more
    rw [hmore] at h'
    rw [h'.world, h.world, h'.events, h.events, h'.isRunning, hstop', hstop,
      cyclesBy_append_of_some hstop]
    exact ⟨rfl, rfl, rfl⟩
  · have hlengths : (trace reply interval initial' sent w script).length =
        (trace reply interval initial sent w script).length := by
      rw [hlength, hlength]
    refine List.ext_getElem (by rw [List.length_map, List.length_map, hlengths]) fun k hk' hk => ?_
    rw [List.length_map] at hk' hk
    have h' := onTime_of_trace hi hpos (List.getElem?_eq_getElem hk')
    have h := onTime_of_trace hi hpos (List.getElem?_eq_getElem hk)
    rw [List.getElem_map, List.getElem_map, h'.world, h.world, h'.events, h.events, h'.isRunning,
      h.isRunning]

/-- The metadata service is down. -/
def unavailableReply : (c : Call) → Unit → port.Reply c × Unit
  | .instanceName, w => (.error (.status "instance name" 503), w)
  | .physicalHost, w => (.error (.status "physical host" 503), w)
  | .patch _ _, w => (.ok (), w)
  | .count _, w => (w, w)
  | .stampSuccess, w => (w, w)
  | .pause _, w => (.due, w)

/-- With the interval of ten minutes: one cycle at once, one at the sign to go on after half an
interval, and two in the 25 minutes until nobody is left to give a sign. -/
theorem trace_cadence_defaultInterval :
    ({} : Config).fault? = none ∧ ∃ c : Clockwork Unit,
      (trace unavailableReply ({} : Config).topology.interval true none ()
        [.advance 300000, .send false, .advance 1500000, .drop, .advance 600000])[5]? = some c ∧
      c.events.count cycleEvent = 4 ∧ c.stage = .ended (.ok ()) := by
  have hvalid : ({} : Config).fault? = none := by decide +kernel
  obtain ⟨hlength, hstates, -⟩ := trace_cadence unavailableReply _ (milliseconds_pos {} hvalid) true
    none () [.advance 300000, .send false, .advance 1500000, .drop, .advance 600000]
  have hlast := List.getElem?_eq_getElem (Nat.lt_of_lt_of_eq (Nat.lt_succ_self 5) hlength.symm)
  obtain ⟨hcount, -, -, hended, -⟩ := hstates 5 _ hlast
  exact ⟨hvalid, _, hlast, hcount.trans (by decide +kernel), hended.2 (by decide)⟩

end NodeLabels.Topology.Clockwork
