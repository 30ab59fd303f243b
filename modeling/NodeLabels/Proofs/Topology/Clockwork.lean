import NodeLabels.Proofs.Dialogue.Within
import NodeLabels.Proofs.Topology.Cycle
import NodeLabels.Topology.Cadence
/-!
# The job on its clock

What a wake-up, a look at the stop flag and a move of the clock make of a job that waits. `Waits` is
the invariant: so many cycles were run, nothing else was done, and the next one is due in so many
milliseconds.
-/

namespace NodeLabels.Topology

open Dialogue (Returns Within)

/-! ## A cycle between two pauses -/

def IsPause : port.Call → Prop
  | .pause _ => True
  | _ => False

/-- A dialogue that comes to a value and on the way neither pauses nor reports the start of a
cycle. -/
inductive Between {α : Type} : Dialogue port α → Prop
  | done (a : α) : Between (.done a)
  | report {e : Event} {d : Dialogue port α} (he : e.message ≠ cycleEvent.message)
      (hd : Between d) : Between (.report e d)
  | call {c : port.Call} {k : port.Reply c → Dialogue port α} (hc : ¬ IsPause c)
      (hk : ∀ r, Between (k r)) : Between (.call c k)

namespace Between

variable {α β : Type}

theorem ask {c : port.Call} (hc : ¬ IsPause c) : Between (Dialogue.ask c) := .call hc .done

theorem tell {e : Event} (he : e.message ≠ cycleEvent.message) : Between (Dialogue.tell e) :=
  .report he (.done ())

theorem bind {d : Dialogue port α} {f : α → Dialogue port β} (hd : Between d)
    (hf : ∀ a, Between (f a)) : Between (d >>= f) := by
  induction hd with
  | done a => exact hf a
  | report he _ ih => exact .report he ih
  | call hc _ ih => exact .call hc ih

theorem within {d : Dialogue port α} (hd : Between d) :
    d.Within (fun c => ¬ IsPause c) (fun e => e.message ≠ cycleEvent.message) := by
  induction hd with
  | done a => exact .done a
  | report he _ ih => exact .report he ih
  | call hc _ ih => exact .call hc ih

end Between

theorem update_between : Between update := by
  have hcycle : Between cycle := by
    refine Between.bind (.ask id) fun name => ?_
    cases name with
    | error fault => exact .done _
    | ok name =>
      dsimp only
      split
      · exact .done _
      refine Between.bind (.ask id) fun raw => ?_
      cases raw with
      | error fault => exact .done _
      | ok raw =>
        dsimp only
        split
        · exact .done _
        refine Between.bind (.ask id) fun answer => ?_
        cases answer with
        | error failure => exact .done _
        | ok =>
          exact Between.bind (.tell (by simp [Update.event, event, cycleEvent])) fun _ => .done _
  refine hcycle.bind fun result => ?_
  cases result with
  | ok update => exact Between.bind (.ask id) fun _ => Between.bind (.ask id) fun _ => .done _
  | error fault =>
    refine Between.bind (.tell ?_) fun _ => Between.bind (.ask id) fun _ => .done _
    cases fault <;> simp [faultEvent, event, cycleEvent]

theorem update_within :
    update.Within (fun c => ¬ IsPause c) (fun e => e.message ≠ cycleEvent.message) :=
  update_between.within

section

variable {σ : Type} (reply : (c : Call) → σ → port.Reply c × σ)

/-- A cycle is never halted. -/
theorem exists_value_update (w : σ) : ∃ result, (update.run reply w).value = .ok result := by
  obtain ⟨result, t, log, hcycle, -⟩ := cycle_cycled reply w
  obtain ⟨u, hupdate⟩ := update_of_cycle reply hcycle
  exact ⟨result, hupdate.value⟩

/-- The world after so many cycles, and what they reported. -/
def rounds (w : σ) : Nat → σ × List Event
  | 0 => (w, [])
  | n + 1 =>
    let before := rounds w n
    let t := update.run reply before.1
    (t.state, before.2 ++ cycleEvent :: t.events)

theorem count_rounds (w : σ) (n : Nat) : (rounds reply w n).2.count cycleEvent = n := by
  induction n with
  | zero => rfl
  | succ n ih =>
    have hother : cycleEvent ∉ (update.run reply (rounds reply w n).1).events :=
      fun h => update_within.events_run reply _ _ h rfl
    rw [rounds, List.count_append, ih, List.count_cons_self, List.count_eq_zero.2 hother]

namespace Clockwork

/-- What is left to do after a pause. -/
def afterPause (interval : Span) (patience : Nat) (w : Wake) : Dialogue port Unit :=
  if w.stops then .tell stopEvent else repeatCycles interval patience

theorem proceed_bind {α : Type} {d : Dialogue port α} {q : Event → Prop}
    (hd : d.Within (fun c => ¬ IsPause c) q) {w : σ} {a : α} (ha : (d.run reply w).value = .ok a)
    (flag : StopFlag) (f : α → Dialogue port Unit) (events : List Event) :
    proceed reply flag (d >>= f) w events =
      proceed reply flag (f a) (d.run reply w).state (events ++ (d.run reply w).events) := by
  induction hd generalizing w events with
  | done x =>
    cases ha
    simp [Dialogue.run]
  | halt why => cases ha
  | @report e d _ _ ih =>
    change proceed reply flag (d >>= f) w (events ++ [e]) = _
    rw [ih ha, List.append_assoc]
    rfl
  | @call c k hc _ ih =>
    cases c with
    | pause interval => exact absurd trivial hc
    | instanceName => exact ih _ ha events
    | physicalHost => exact ih _ ha events
    | patch node labels => exact ih _ ha events
    | count o => exact ih _ ha events
    | stampSuccess => exact ih _ ha events

/-- The step lemma: a job that may run another cycle runs it and waits for the next. -/
theorem proceed_repeatCycles (flag : StopFlag) (interval : Span) (patience : Nat) (w : σ)
    (events : List Event) :
    proceed reply flag (repeatCycles interval (patience + 1)) w events =
      { world := (update.run reply w).state
        events := events ++ cycleEvent :: (update.run reply w).events
        flag
        stage := .waiting
          { left := milliseconds interval, resume := afterPause interval patience } } := by
  obtain ⟨result, hresult⟩ := exists_value_update reply w
  change proceed reply flag (update >>= fun _ => _) w (events ++ [cycleEvent]) = _
  rw [proceed_bind reply update_within hresult, List.append_assoc]
  rfl

end Clockwork

end

/-! ## The stop flag -/

namespace StopFlag

/-- There is nothing new to see, and somebody is left to change that. -/
def Quiet (f : StopFlag) : Prop := f.unseen = false ∧ f.orphaned = false

theorem look?_eq_none_iff {f : StopFlag} : f.look? = none ↔ f.Quiet := by
  unfold look? Quiet
  cases f.unseen <;> cases f.orphaned <;> simp

theorem Quiet.look? {f : StopFlag} (h : f.Quiet) : f.look? = none :=
  look?_eq_none_iff.2 h

/-- A sign to go on leaves nothing to see, unless there was news of two kinds. -/
theorem quiet_of_look? {f g : StopFlag} {sign : Wake} (h : f.look? = some (sign, g))
    (hone : f.unseen = false ∨ f.orphaned = false) (hsign : sign.stops = false) : g.Quiet := by
  unfold StopFlag.look? at h
  split at h
  · rename_i hunseen
    cases h
    exact ⟨rfl, hone.resolve_left (ne_false_of_eq_true hunseen)⟩
  split at h
  · cases h
    exact nomatch hsign
  · cases h

theorem look?_set (f : StopFlag) (stop : Bool) :
    (f.set stop).look? = some (.changed stop, { f with value := stop, unseen := false }) := rfl

theorem Quiet.look?_orphan {f : StopFlag} (h : f.Quiet) :
    f.orphan.look? = some (.abandoned, f.orphan) := by
  simp [StopFlag.look?, orphan, h.1]

end StopFlag

/-! ## Waiting and stopping -/

namespace Clockwork

variable {σ : Type} {reply : (c : Call) → σ → port.Reply c × σ} {interval : Span}
  {patience n left : Nat} {w : σ} {c : Clockwork σ}

/-- After `n` cycles from `w` the job waits, for `left` milliseconds if nothing happens. -/
structure Paused (reply : (c : Call) → σ → port.Reply c × σ) (interval : Span)
    (patience : Nat) (w : σ) (n left : Nat) (c : Clockwork σ) : Prop where
  world : c.world = (rounds reply w n).1
  events : c.events = startEvent interval :: (rounds reply w n).2
  stage : c.stage = .waiting { left, resume := afterPause interval (patience - n) }

/-- The job waits and has seen all that there is to see. -/
structure Waits (reply : (c : Call) → σ → port.Reply c × σ) (interval : Span)
    (patience : Nat) (w : σ) (n left : Nat) (c : Clockwork σ) : Prop
    extends Paused reply interval patience w n left c where
  quiet : c.flag.Quiet

/-- After `n` cycles from `w` the job came to its end. -/
structure Stopped (reply : (c : Call) → σ → port.Reply c × σ) (interval : Span) (w : σ)
    (n : Nat) (c : Clockwork σ) : Prop where
  world : c.world = (rounds reply w n).1
  events : c.events = startEvent interval :: (rounds reply w n).2 ++ [stopEvent]
  stage : c.stage = .ended (.ok ())

namespace Paused

theorem wake (h : Paused reply interval patience w n left c) (hn : n < patience) {sign : Wake}
    (hwake : sign.stops = false) :
    Paused reply interval patience w (n + 1) (milliseconds interval) (c.wake reply sign) ∧
      (c.wake reply sign).flag = c.flag := by
  obtain ⟨spare, hspare⟩ : ∃ spare, patience - n = spare + 1 := ⟨patience - n - 1, by omega⟩
  have hrest : patience - (n + 1) = spare := by omega
  unfold Clockwork.wake
  simp only [h.stage, afterPause, hwake, Bool.false_eq_true, if_false, hspare,
    proceed_repeatCycles, h.world, h.events]
  refine ⟨⟨rfl, rfl, ?_⟩, trivial⟩
  rw [hrest]

theorem wake_stop (h : Paused reply interval patience w n left c) {sign : Wake}
    (hwake : sign.stops = true) : Stopped reply interval w n (c.wake reply sign) := by
  unfold Clockwork.wake
  simp only [h.stage, afterPause, hwake, if_true]
  exact ⟨h.world, congrArg (· ++ [stopEvent]) h.events, rfl⟩

/-- A look at the flag starts the next cycle or ends the job. -/
theorem settle (h : Paused reply interval patience w n left c) (hn : n < patience) {sign : Wake}
    {flag : StopFlag} (hlook : c.flag.look? = some (sign, flag)) (hwake : sign.stops = false)
    (hquiet : flag.Quiet) :
    Waits reply interval patience w (n + 1) (milliseconds interval) (c.settle reply) := by
  have hflag : Paused reply interval patience w n left { c with flag } :=
    ⟨h.world, h.events, h.stage⟩
  obtain ⟨hpaused, heq⟩ := hflag.wake hn hwake
  unfold Clockwork.settle
  rw [hlook]
  exact { hpaused with quiet := heq ▸ hquiet }

theorem settle_stop (h : Paused reply interval patience w n left c) {sign : Wake} {flag : StopFlag}
    (hlook : c.flag.look? = some (sign, flag)) (hwake : sign.stops = true) :
    Stopped reply interval w n (c.settle reply) := by
  have hflag : Paused reply interval patience w n left { c with flag } :=
    ⟨h.world, h.events, h.stage⟩
  unfold Clockwork.settle
  rw [hlook]
  exact hflag.wake_stop hwake

end Paused

theorem Stopped.step (h : Stopped reply interval w n c) (happening : Happening) :
    Stopped reply interval w n (c.step reply happening) := by
  have hsettle (d : Clockwork σ) (hd : Stopped reply interval w n d) :
      Stopped reply interval w n (d.settle reply) := by
    unfold settle
    cases d.flag.look? with
    | none => exact hd
    | some seen =>
      simp only [wake, hd.stage]
      exact ⟨hd.world, hd.events, rfl⟩
  cases happening with
  | advance ms =>
    rw [Clockwork.step, Clockwork.advance, h.stage]
    exact h
  | send stop =>
    exact hsettle { c with flag := c.flag.set stop } ⟨h.world, h.events, h.stage⟩
  | drop => exact hsettle { c with flag := c.flag.orphan } ⟨h.world, h.events, h.stage⟩

/-! ## The clock -/

theorem turn_div {i : Nat} (hi : 0 < i) (e : Nat) :
    (e + (i - e % i)) / i = e / i + 1 ∧ (e + (i - e % i)) % i = 0 := by
  have hmod : e % i < i := Nat.mod_lt e hi
  have hturn : e + (i - e % i) = i * (e / i + 1) := by
    have hdiv := Nat.div_add_mod e i
    rw [Nat.mul_succ]
    omega
  rw [hturn]
  exact ⟨Nat.mul_div_cancel_left _ hi, Nat.mul_mod_right _ _⟩

theorem stay_div {i e ms : Nat} (hms : ms < i - e % i) :
    (e + ms) / i = e / i ∧ (e + ms) % i = e % i + ms := by
  have hi : 0 < i := by omega
  have hsum : e + ms = i * (e / i) + (e % i + ms) := by
    have hdiv := Nat.div_add_mod e i
    omega
  have hlt : e % i + ms < i := by omega
  constructor
  · rw [hsum, Nat.mul_add_div hi, Nat.div_eq_of_lt hlt, Nat.add_zero]
  · conv => lhs; rw [hsum]
    rw [Nat.mul_add_mod, Nat.mod_eq_of_lt hlt]

/-- A cycle is run whenever the time since the last one that was begun out of turn, `e`, passes a
multiple of the interval. -/
theorem Waits.advance {i : Nat} (hi : milliseconds interval = i) (hpos : 0 < i) {base e ms : Nat}
    (h : Waits reply interval patience w (base + e / i) (i - e % i) c)
    (hpatience : base + (e + ms) / i ≤ patience) :
    Waits reply interval patience w (base + (e + ms) / i) (i - (e + ms) % i)
      (c.advance reply ms) := by
  induction ms using Nat.strongRecOn generalizing c e with
  | ind ms ih =>
    have hmod : e % i < i := Nat.mod_lt e hpos
    rw [Clockwork.advance, h.stage]
    dsimp only
    by_cases hms : i - e % i ≤ ms
    · obtain ⟨hdiv, hzero⟩ := turn_div hpos e
      have hle : e / i + 1 ≤ (e + ms) / i :=
        hdiv ▸ Nat.div_le_div_right (Nat.add_le_add_left hms e)
      have hdue : Wake.due.stops = false := rfl
      obtain ⟨hpaused, hflag⟩ := h.toPaused.wake (by omega) hdue
      have hnext : Waits reply interval patience w (base + (e + (i - e % i)) / i)
          (i - (e + (i - e % i)) % i) (c.wake reply .due) := by
        rw [hdiv, hzero, Nat.sub_zero, ← Nat.add_assoc]
        rw [hi] at hpaused
        exact { hpaused with quiet := hflag ▸ h.quiet }
      have hsum : e + (i - e % i) + (ms - (i - e % i)) = e + ms := by omega
      have hrest := ih (ms - (i - e % i)) (by omega) hnext
      rw [hsum] at hrest
      rw [if_pos ⟨by omega, hms⟩]
      exact hrest hpatience
    · obtain ⟨hdiv, hsum⟩ := stay_div (Nat.lt_of_not_le hms)
      rw [if_neg fun hpass => hms hpass.2, hdiv, hsum, ← Nat.sub_sub]
      exact { world := h.world, events := h.events, stage := rfl, quiet := h.quiet }

end Clockwork

end NodeLabels.Topology
