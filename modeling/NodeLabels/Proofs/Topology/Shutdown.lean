import NodeLabels.Proofs.Topology.Clocked
/-!
# The job against its stop flag

A sign to stop is never missed, whenever it is given. `Standing` says where a job can be after so
many cycles and how many it may still begin once the sign is there: the one that was due when it was
given at most, and none at all if the job was in a cycle. Every step keeps to that
(`Standing.step`), and so does a run.
-/

namespace NodeLabels.Topology.Race

open Clockwork (afterPause milliseconds)

/-- The pause after a cycle, and what comes then. -/
def pauseThen (interval : Span) (patience : Nat) : Dialogue port Unit :=
  pause interval >>= afterPause interval patience

/-- Where a job can be that began so many cycles, and how many more it may begin if the flag already
tells it to stop. -/
inductive Standing (patience : Nat) (interval : Span) : (begun further : Nat) → Place → Prop
  | unstarted : Standing patience interval 0 1 .unstarted
  | working {n m : Nat} {c : Call} {k : port.Reply c → Dialogue port (Except LabelFault Update)}
      (hn : 0 < n) (hsum : n + m = patience) (hk : ∀ a, Between (k a)) :
      Standing patience interval n 0 (.working c fun a => k a >>= fun _ => pauseThen interval m)
  /-- The first look at a pause comes before its time, and so it finds the sign. -/
  | fresh {n m : Nat} (hn : 0 < n) (hsum : n + m = patience) :
      Standing patience interval n 0
        (.waiting { left := milliseconds interval, resume := afterPause interval m } false)
  | waiting {n m left : Nat} (hn : 0 < n) (hsum : n + m = patience) :
      Standing patience interval n 1 (.waiting { left, resume := afterPause interval m } true)
  | ended {n : Nat} (hn : 0 < n) : Standing patience interval n 0 (.ended (.ok ()))
  | exhausted : Standing patience interval patience 0 (.ended (.error .outOfPatience))

variable {patience : Nat} {interval : Span} {r s t : Race} {a : Act}

theorem cycles_goOn (r : Race) (d : Dialogue port Unit) :
    (r.goOn d).cycles = r.cycles + (arrive d).1.count cycleEvent := List.count_append

/-! ## Between two calls -/

/-- A cycle that goes on stays in the cycle, up to the pause. -/
theorem arrive_between (interval : Span) {x : Dialogue port (Except LabelFault Update)}
    (hx : Between x) {n m : Nat} (hn : 0 < n) (hsum : n + m = patience) :
    (arrive (x >>= fun _ => pauseThen interval m)).1.count cycleEvent = 0 ∧
      Standing patience interval n 0 (arrive (x >>= fun _ => pauseThen interval m)).2 := by
  induction hx with
  | done result => exact ⟨rfl, .fresh hn hsum⟩
  | @report e d he _ ih =>
    refine ⟨?_, ih.2⟩
    have hne : e ≠ cycleEvent := fun h => he (congrArg _ h)
    exact (List.count_cons_of_ne hne).trans ih.1
  | @call c k hc hk ih =>
    cases c with
    | pause interval => exact absurd trivial hc
    | instanceName => exact ⟨rfl, .working hn hsum hk⟩
    | physicalHost => exact ⟨rfl, .working hn hsum hk⟩
    | patch node labels => exact ⟨rfl, .working hn hsum hk⟩
    | count o => exact ⟨rfl, .working hn hsum hk⟩
    | stampSuccess => exact ⟨rfl, .working hn hsum hk⟩

theorem goOn_between (interval : Span) {x : Dialogue port (Except LabelFault Update)}
    (hx : Between x) {m : Nat} (hn : 0 < r.cycles) (hsum : r.cycles + m = patience) :
    (r.goOn (x >>= fun _ => pauseThen interval m)).cycles = r.cycles ∧
      Standing patience interval r.cycles 0
        (r.goOn (x >>= fun _ => pauseThen interval m)).place := by
  obtain ⟨hcount, hstanding⟩ := arrive_between interval hx hn hsum
  exact ⟨by rw [cycles_goOn, hcount, Nat.add_zero], hstanding⟩

/-- Beginning a cycle, if patience is left for one. -/
theorem goOn_repeatCycles (interval : Span) {m : Nat} (hsum : r.cycles + m = patience) :
    (r.goOn (repeatCycles interval m)).cycles ≤ r.cycles + 1 ∧
      Standing patience interval (r.goOn (repeatCycles interval m)).cycles 0
        (r.goOn (repeatCycles interval m)).place := by
  cases m with
  | zero =>
    have hcycles : (r.goOn (repeatCycles interval 0)).cycles = patience :=
      (cycles_goOn r _).trans hsum
    rw [hcycles]
    exact ⟨by omega, .exhausted⟩
  | succ m =>
    have hsum' : r.cycles + 1 + m = patience := by omega
    obtain ⟨hcount, hstanding⟩ :=
      arrive_between interval update_between (Nat.succ_pos r.cycles) hsum'
    have hcycles : (r.goOn (repeatCycles interval (m + 1))).cycles = r.cycles + 1 := by
      rw [cycles_goOn]
      change r.cycles + (cycleEvent ::
        (arrive (update >>= fun _ => pauseThen interval m)).1).count cycleEvent = _
      rw [List.count_cons_self, hcount]
    rw [hcycles]
    exact ⟨Nat.le_refl _, hstanding⟩

theorem goOn_watch (patience : Nat) (interval : Span) (h : r.cycles = 0) :
    (r.goOn (watch patience interval)).cycles ≤ 1 ∧
      Standing patience interval (r.goOn (watch patience interval)).cycles 0
        (r.goOn (watch patience interval)).place := by
  have hstart : startEvent interval ≠ cycleEvent := by simp [startEvent, cycleEvent, event]
  have hzero : ({ r with events := r.events ++ [startEvent interval] } : Race).cycles = 0 := by
    rw [cycles, List.count_append, List.count_cons_of_ne hstart]
    exact h
  have hbegun := goOn_repeatCycles interval (hzero.symm ▸ Nat.zero_add patience)
  rw [goOn_start]
  rwa [hzero] at hbegun

theorem cycles_goOn_stop (r : Race) : (r.goOn (.tell stopEvent)).cycles = r.cycles := by
  have hcount : [stopEvent].count cycleEvent = 0 := by decide
  rw [cycles_goOn]
  exact congrArg (r.cycles + ·) hcount

/-! ## Signs -/

/-- What there is to see of the flag is a sign to stop. -/
def Heeded (f : StopFlag) : Prop := f.unseen = true → f.value = true

/-- There is something to see. -/
def Signed (f : StopFlag) : Prop := f.unseen = true ∨ f.orphaned = true

theorem Heeded.stops {f g : StopFlag} {sign : Wake} (h : Heeded f)
    (hlook : f.look? = some (sign, g)) : sign.stops = true ∧ Heeded g := by
  unfold StopFlag.look? at hlook
  split at hlook
  · rename_i hunseen
    cases hlook
    exact ⟨h hunseen, fun h => nomatch h⟩
  split at hlook
  · cases hlook
    exact ⟨rfl, h⟩
  · cases hlook

theorem not_signed_of_look? {f : StopFlag} (h : f.look? = none) : ¬ Signed f := by
  obtain ⟨hunseen, horphaned⟩ := StopFlag.look?_eq_none_iff.1 h
  simp [Signed, hunseen, horphaned]

/-! ## Steps -/

theorem Standing.of_unstarted {n k : Nat} (h : Standing patience interval n k .unstarted) :
    n = 0 ∧ k = 1 := by
  cases h
  exact ⟨rfl, rfl⟩

theorem Standing.of_working {n k : Nat} {c : Call} {resume : port.Reply c → Dialogue port Unit}
    (h : Standing patience interval n k (.working c resume)) (reply : port.Reply c) :
    0 < n ∧ k = 0 ∧ ∃ m, ∃ x : Dialogue port (Except LabelFault Update), n + m = patience ∧
      Between x ∧ resume reply = x >>= fun _ => pauseThen interval m := by
  cases h with
  | @working n m c k hn hsum hk => exact ⟨hn, rfl, m, k reply, hsum, hk reply, rfl⟩

theorem Standing.of_waiting {n k : Nat} {pause : Pause} {seen : Bool}
    (h : Standing patience interval n k (.waiting pause seen)) :
    0 < n ∧ (k = if seen then 1 else 0) ∧ (seen = false → pause.left = milliseconds interval) ∧
      ∃ m, n + m = patience ∧ pause.resume = afterPause interval m := by
  cases h with
  | fresh hn hsum => exact ⟨hn, rfl, fun _ => rfl, _, hsum, rfl⟩
  | waiting hn hsum => exact ⟨hn, rfl, nofun, _, hsum, rfl⟩

/-- To see a sign is to come to the end. -/
theorem Standing.notice {k : Nat} {sign : Wake} (h : Standing patience interval r.cycles k r.place)
    (hflag : Heeded r.flag) (hs : Step patience interval r (.notice sign) s) :
    s.place = .ended (.ok ()) ∧ s.cycles = r.cycles := by
  cases hs with
  | @notice pause _ _ flag hplace hlook =>
    rw [hplace] at h
    obtain ⟨-, -, -, m, -, hresume⟩ := h.of_waiting
    rw [hresume, afterPause, if_pos (hflag.stops hlook).1]
    exact ⟨rfl, cycles_goOn_stop { r with flag }⟩

/-- The step lemma. Once a sign is there, what was begun and what may still be begun do not grow. -/
theorem Standing.step {k : Nat} (h : Standing patience interval r.cycles k r.place)
    (hpos : 0 < milliseconds interval) (hflag : Heeded r.flag) (ha : a ≠ .send false)
    (hs : Step patience interval r a s) :
    Heeded s.flag ∧ ∃ k', Standing patience interval s.cycles k' s.place ∧
      (Signed r.flag → s.cycles + k' ≤ r.cycles + k ∧
        (Signed s.flag ∨ s.place = .ended (.ok ()))) := by
  cases hs with
  | start hplace =>
    rw [hplace] at h
    obtain ⟨hzero, rfl⟩ := h.of_unstarted
    obtain ⟨hle, hstanding⟩ := goOn_watch patience interval hzero
    exact ⟨hflag, 0, hstanding, fun hsigned => ⟨by omega, .inl hsigned⟩⟩
  | answer hplace reply =>
    rw [hplace] at h
    obtain ⟨hn, rfl, m, x, hsum, hx, hresume⟩ := h.of_working reply
    obtain ⟨hcycles, hstanding⟩ := goOn_between interval hx hn hsum
    rw [hresume, hcycles]
    exact ⟨hflag, 0, hstanding, fun hsigned => ⟨Nat.le_refl _, .inl hsigned⟩⟩
  | @look pause _ hplace hleft hnone =>
    rw [hplace] at h
    obtain ⟨left, resume⟩ := pause
    obtain ⟨hn, -, -, m, hsum, rfl⟩ := h.of_waiting
    exact ⟨hflag, 1, .waiting hn hsum, fun hsigned => absurd hsigned (not_signed_of_look? hnone)⟩
  | @due pause seen hplace hleft =>
    rw [hplace] at h
    obtain ⟨hn, rfl, hfresh, m, hsum, hresume⟩ := h.of_waiting
    cases seen with
    -- A pause that just began has its whole length before it.
    | false => exact absurd (hleft.symm.trans (hfresh rfl)) (Nat.ne_of_lt hpos)
    | true =>
      obtain ⟨hle, hstanding⟩ := goOn_repeatCycles interval hsum
      rw [hresume]
      exact ⟨hflag, 0, hstanding, fun hsigned => ⟨hle, .inl hsigned⟩⟩
  | @notice pause _ sign flag hplace hlook =>
    obtain ⟨hended, hcycles⟩ := h.notice hflag (.notice hplace hlook)
    rw [hplace] at h
    rw [hended, hcycles]
    exact ⟨(hflag.stops hlook).2, 0, .ended h.of_waiting.1,
      fun _ => ⟨Nat.le_add_right _ _, .inr rfl⟩⟩
  | @elapse pause hplace ms =>
    rw [hplace] at h
    obtain ⟨left, resume⟩ := pause
    obtain ⟨hn, rfl, -, m, hsum, rfl⟩ := h.of_waiting
    exact ⟨hflag, 1, .waiting hn hsum, fun hsigned => ⟨Nat.le_refl _, .inl hsigned⟩⟩
  | send horphaned stop =>
    have hstop : stop = true := by
      cases stop with
      | false => exact absurd rfl ha
      | true => rfl
    exact ⟨fun _ => hstop, k, h, fun _ => ⟨Nat.le_refl _, .inl (.inl rfl)⟩⟩
  | drop => exact ⟨hflag, k, h, fun _ => ⟨Nat.le_refl _, .inl (.inr rfl)⟩⟩

theorem step_ended {result : Except Halt Unit} (h : r.place = .ended result)
    (hs : Step patience interval r a s) : s.place = .ended result ∧ s.cycles = r.cycles := by
  cases hs with
  | send horphaned stop => exact ⟨h, rfl⟩
  | drop => exact ⟨h, rfl⟩
  | start hplace => exact nomatch h.symm.trans hplace
  | answer hplace reply => exact nomatch h.symm.trans hplace
  | look hplace hleft hnone => exact nomatch h.symm.trans hplace
  | due hplace hleft => exact nomatch h.symm.trans hplace
  | notice hplace hlook => exact nomatch h.symm.trans hplace
  | elapse hplace ms => exact nomatch h.symm.trans hplace

/-- A cycle is begun at the start or when the time of a pause has come. -/
theorem Standing.step_cycles {k : Nat} (h : Standing patience interval r.cycles k r.place)
    (hflag : Heeded r.flag) (hs : Step patience interval r a s) :
    s.cycles = r.cycles ∨ a = .start ∨ a = .due := by
  cases hs with
  | start hplace => exact .inr (.inl rfl)
  | due hplace hleft => exact .inr (.inr rfl)
  | answer hplace reply =>
    rw [hplace] at h
    obtain ⟨hn, rfl, m, x, hsum, hx, hresume⟩ := h.of_working reply
    rw [hresume]
    exact .inl (goOn_between interval hx hn hsum).1
  | notice hplace hlook => exact .inl (h.notice hflag (.notice hplace hlook)).2
  | look hplace hleft hnone => exact .inl rfl
  | elapse hplace ms => exact .inl rfl
  | send horphaned stop => exact .inl rfl
  | drop => exact .inl rfl

/-! ## Runs -/

/-- What a job is subject to at any time. -/
def Sound (patience : Nat) (interval : Span) (r : Race) : Prop :=
  Heeded r.flag ∧ ∃ k, Standing patience interval r.cycles k r.place

/-- What a job is subject to from a sign on: it has begun so many cycles in the end. -/
def Bounded (patience : Nat) (interval : Span) (total : Nat) (r : Race) : Prop :=
  Heeded r.flag ∧ ∃ k, Standing patience interval r.cycles k r.place ∧ r.cycles + k ≤ total ∧
    (Signed r.flag ∨ r.place = .ended (.ok ()))

/-- The sign to go on is not given. -/
def Act.isFinal (a : Act) : Prop := a ≠ .send false

section

variable (hpos : 0 < milliseconds interval)

include hpos

theorem Sound.reaches (h : Sound patience interval r)
    (hrun : Reaches patience interval Act.isFinal r s) : Sound patience interval s := by
  induction hrun with
  | refl => exact h
  | step _ ha hs ih =>
    obtain ⟨hflag, k, hstanding⟩ := ih
    obtain ⟨hflag', k', hstanding', -⟩ := hstanding.step hpos hflag ha hs
    exact ⟨hflag', k', hstanding'⟩

theorem Bounded.step {total : Nat} (h : Bounded patience interval total r) (ha : a.isFinal)
    (hs : Step patience interval r a s) : Bounded patience interval total s := by
  obtain ⟨hflag, k, hstanding, hle, hsigned⟩ := h
  obtain ⟨hflag', k', hstanding', hkeep⟩ := hstanding.step hpos hflag ha hs
  rcases hsigned with hsigned | hended
  · obtain ⟨hle', hsigned'⟩ := hkeep hsigned
    exact ⟨hflag', k', hstanding', Nat.le_trans hle' hle, hsigned'⟩
  · obtain ⟨hended', hcycles⟩ := step_ended hended hs
    refine ⟨hflag', k, ?_, by omega, .inr hended'⟩
    rw [hended', hcycles, ← hended]
    exact hstanding

theorem Bounded.reaches {total : Nat} (h : Bounded patience interval total r)
    (hrun : Reaches patience interval Act.isFinal r s) : Bounded patience interval total s := by
  induction hrun with
  | refl => exact h
  | step _ ha hs ih => exact ih.step hpos ha hs

theorem Bounded.cycles_le {total : Nat} (h : Bounded patience interval total r)
    (hrun : Reaches patience interval Act.isFinal r s) : s.cycles ≤ total := by
  obtain ⟨-, k, -, hle, -⟩ := h.reaches hpos hrun
  omega

end

/-- The job is in a pause. -/
def Waiting (r : Race) : Prop := ∃ pause seen, r.place = .waiting pause seen

/-- The flag is set to stop, or left alone for good. -/
def Act.isSign (a : Act) : Prop := a = .send true ∨ a = .drop

theorem Standing.further_le {n k : Nat} {place : Place}
    (h : Standing patience interval n k place) : k ≤ 1 := by
  cases h <;> omega

theorem Standing.further_le_of_not_waiting {n k : Nat} {place : Place}
    (h : Standing patience interval n k place) (hw : ∀ pause seen, place ≠ .waiting pause seen) :
    n + k ≤ max 1 n := by
  cases h with
  | waiting hn hsum => exact absurd rfl (hw _ _)
  | _ => omega

theorem Sound.bounded (h : Sound patience interval r) (ha : a.isSign)
    (hs : Step patience interval r a s) :
    s.place = r.place ∧ s.cycles = r.cycles ∧ Bounded patience interval (r.cycles + 1) s ∧
      (¬ Waiting r → Bounded patience interval (max 1 r.cycles) s) := by
  obtain ⟨hflag, k, hstanding⟩ := h
  have hkept : s.place = r.place ∧ s.cycles = r.cycles ∧ Heeded s.flag ∧ Signed s.flag := by
    rcases ha with rfl | rfl
    · cases hs with
      | send horphaned stop => exact ⟨rfl, rfl, fun _ => rfl, .inl rfl⟩
    · cases hs with
      | drop => exact ⟨rfl, rfl, hflag, .inr rfl⟩
  obtain ⟨hplace, hcycles, hflag', hsigned⟩ := hkept
  have hstanding' : Standing patience interval s.cycles k s.place := by
    rw [hplace, hcycles]
    exact hstanding
  have hle := hstanding.further_le
  refine ⟨hplace, hcycles, ⟨hflag', k, hstanding', by omega, .inl hsigned⟩, fun hwaiting => ?_⟩
  refine ⟨hflag', k, hstanding', ?_, .inl hsigned⟩
  rw [hcycles]
  exact hstanding.further_le_of_not_waiting fun pause seen h => hwaiting ⟨pause, seen, h⟩

/-- A cycle that is begun after the sign is begun where the time of the pause had come as well. -/
theorem Bounded.exists_due (hpos : 0 < milliseconds interval) {total : Nat}
    (h : Bounded patience interval total s) (hstarted : 0 < s.cycles)
    (hrun : Reaches patience interval Act.isFinal s t) :
    t.cycles = s.cycles ∨ ∃ u v, Reaches patience interval Act.isFinal s u ∧
      u.cycles = s.cycles ∧ Signed u.flag ∧ Step patience interval u .due v ∧
      Reaches patience interval Act.isFinal v t := by
  induction hrun with
  | refl => exact .inl rfl
  | @step u v a hsu ha hs ih =>
    obtain hsame | ⟨u', v', hsu', hcycles, hsigned, hdue, hrest⟩ := ih
    · obtain ⟨hflag, k, hstanding, -, hsigned⟩ := h.reaches hpos hsu
      rcases hstanding.step_cycles hflag hs with hkept | rfl | rfl
      · exact .inl (hkept.trans hsame)
      · cases hs with
        | start hplace =>
          rw [hplace] at hstanding
          have hzero := hstanding.of_unstarted.1
          omega
      · refine .inr ⟨u, v, hsu, hsame, hsigned.resolve_right fun hended => ?_, hs, .refl⟩
        cases hs with
        | due hplace hleft => exact nomatch hplace.symm.trans hended
    · exact .inr ⟨u', v', hsu', hcycles, hsigned, hdue, hrest.step ha hs⟩

/-! ## What a job can always do -/

/-- The job's own acts. -/
def Act.isOwn (a : Act) : Prop := a ∈ [.start, .answer, .look, .due] ∨ ∃ sign, a = .notice sign

theorem nonempty_reply (c : Call) : Nonempty (port.Reply c) := by
  cases c with
  | instanceName => exact ⟨.ok ""⟩
  | physicalHost => exact ⟨.ok ""⟩
  | patch node labels => exact ⟨.ok ()⟩
  | count o => exact ⟨()⟩
  | stampSuccess => exact ⟨()⟩
  | pause interval => exact ⟨Wake.due⟩

/-- A job that has not ended is never stuck. -/
theorem exists_step (patience : Nat) (interval : Span) (r : Race) :
    (∃ result, r.place = .ended result) ∨ ∃ a s, a.isOwn ∧ Step patience interval r a s := by
  cases hplace : r.place with
  | unstarted => exact .inr ⟨_, _, .inl (by simp), .start hplace⟩
  | working c resume =>
    obtain ⟨reply⟩ := nonempty_reply c
    exact .inr ⟨_, _, .inl (by simp), .answer hplace reply⟩
  | waiting pause seen =>
    cases hlook : r.flag.look? with
    | some news => exact .inr ⟨_, _, .inr ⟨_, rfl⟩, .notice hplace hlook⟩
    | none =>
      by_cases hleft : pause.left = 0
      · exact .inr ⟨_, _, .inl (by simp), .due hplace hleft⟩
      · exact .inr ⟨_, _, .inl (by simp), .look hplace (Nat.pos_of_ne_zero hleft) hlook⟩
  | ended result => exact .inl ⟨result, rfl⟩

/-! ## The stop -/

theorem Standing.begun {n k : Nat} {place : Place} (h : Standing patience interval n k place)
    (hpatience : 0 < patience) : place = .unstarted ∨ 1 ≤ n := by
  cases h with
  | unstarted => exact .inl rfl
  | exhausted => exact .inr hpatience
  | working hn hsum hk => exact .inr hn
  | fresh hn hsum => exact .inr hn
  | waiting hn hsum => exact .inr hn
  | ended hn => exact .inr hn

theorem Standing.result {n k : Nat} {result : Except Halt Unit}
    (h : Standing patience interval n k (.ended result)) :
    result = .ok () ∨ (result = .error .outOfPatience ∧ n = patience) := by
  cases h with
  | ended hn => exact .inl rfl
  | exhausted => exact .inr ⟨rfl, rfl⟩

theorem reaches_ended {allowed : Act → Prop} {result : Except Halt Unit}
    (h : r.place = .ended result) (hrun : Reaches patience interval allowed r s) :
    s.place = .ended result ∧ s.cycles = r.cycles := by
  induction hrun with
  | refl => exact ⟨h, rfl⟩
  | step _ _ hs ih =>
    obtain ⟨hended, hcycles⟩ := step_ended ih.1 hs
    exact ⟨hended, hcycles.trans ih.2⟩

theorem milliseconds_pos_of_toNanos (h : 0 < interval.toNanos) : 0 < milliseconds interval := by
  unfold milliseconds
  omega

/-- In any state of any run the first cycle was begun if the job was, the job is not stuck, and it
comes to no end but a good one while there is patience. A sign that is given then, before the start
or in a cycle, is followed by no other cycle than the first; in a pause it is followed by one at
most, and only where the time of the pause had come when the sign was there. Once it is seen the job
is at its end. -/
theorem shutdown_never_missed (hinterval : 0 < interval.toNanos) (hpatience : 0 < patience)
    {value : Bool} (hrun : Reaches patience interval Act.isFinal (before value) r) :
    (r.place = .unstarted ∨ 1 ≤ r.cycles) ∧
    ((∃ result, r.place = .ended result) ∨ ∃ a s, a.isOwn ∧ Step patience interval r a s) ∧
    (∀ result, r.place = .ended result →
      result = .ok () ∨ (result = .error .outOfPatience ∧ r.cycles = patience)) ∧
    (∀ a s t, a.isSign → Step patience interval r a s →
      Reaches patience interval Act.isFinal s t →
      (¬ Waiting r → t.cycles ≤ max 1 r.cycles) ∧
      (Waiting r → t.cycles ≤ r.cycles + 1 ∧ (r.cycles < t.cycles →
        ∃ u v, Reaches patience interval Act.isFinal s u ∧ u.cycles = r.cycles ∧
          Signed u.flag ∧ Step patience interval u .due v ∧
          Reaches patience interval Act.isFinal v t))) ∧
    ∀ sign s t, Step patience interval r (.notice sign) s →
      Reaches patience interval Act.isFinal s t → s.place = .ended (.ok ()) ∧
        t.place = .ended (.ok ()) ∧ t.cycles = r.cycles := by
  have hpos := milliseconds_pos_of_toNanos hinterval
  have hinitial : Sound patience interval (before value) :=
    ⟨fun h => (nomatch h), 1, .unstarted⟩
  have hsound := hinitial.reaches hpos hrun
  obtain ⟨hflag, k, hstanding⟩ := id hsound
  refine ⟨hstanding.begun hpatience, exists_step patience interval r, fun result hended => ?_,
    fun a s t ha hs hst => ⟨fun hwaiting => ?_, fun hwaiting => ⟨?_, fun hlt => ?_⟩⟩,
    fun sign s t hs hst => ?_⟩
  · rw [hended] at hstanding
    exact hstanding.result
  · obtain ⟨-, -, -, hbounded⟩ := hsound.bounded ha hs
    exact (hbounded hwaiting).cycles_le hpos hst
  · obtain ⟨-, -, hbounded, -⟩ := hsound.bounded ha hs
    exact hbounded.cycles_le hpos hst
  · obtain ⟨-, hcycles, hbounded, -⟩ := hsound.bounded ha hs
    rw [← hcycles] at hlt ⊢
    obtain ⟨pause, seen, hplace⟩ := hwaiting
    rw [hplace] at hstanding
    exact (hbounded.exists_due hpos (hcycles ▸ hstanding.of_waiting.1) hst).resolve_left
      (Nat.ne_of_gt hlt)
  · obtain ⟨hended, hcycles⟩ := hstanding.notice hflag hs
    obtain ⟨hended', hcycles'⟩ := reaches_ended hended hst
    exact ⟨hended, hended', hcycles'.trans hcycles⟩

/-- The interval is ten minutes, and the metadata service is away. The sign comes with the end of
the first pause, and a second cycle is begun that is the last. -/
theorem second_cycle_defaultInterval :
    ∃ r s t : Race, Reaches 2 ({} : Config).topology.interval Act.isFinal (before false) r ∧
      Step 2 ({} : Config).topology.interval r (.send true) s ∧
      Reaches 2 ({} : Config).topology.interval Act.isFinal s t ∧ r.cycles = 1 ∧ t.cycles = 2 ∧
      ∃ u v, Reaches 2 ({} : Config).topology.interval Act.isFinal s u ∧ Signed u.flag ∧
        Step 2 ({} : Config).topology.interval u .due v ∧
        Reaches 2 ({} : Config).topology.interval Act.isFinal v t := by
  have hinterval : 0 < ({} : Config).topology.interval.toNanos := by decide +kernel
  have hpos := milliseconds_pos_of_toNanos hinterval
  let rested := paused Clockwork.unavailableReply 2 ({} : Config).topology.interval () 1 0 true {}
  let last := paused Clockwork.unavailableReply 2 ({} : Config).topology.interval () 2
    (milliseconds ({} : Config).topology.interval) false { value := true, unseen := true }
  have hrun : Reaches 2 ({} : Config).topology.interval Act.isFinal (before false) rested :=
    (reaches_paused_one _ nofun nofun (by decide) () false).trans
      (reaches_paused_zero _ nofun (fun _ => nofun) hpos () 1 ⟨rfl, rfl⟩)
  let signed : Race := { rested with flag := { value := true, unseen := true } }
  have hsign : Step 2 ({} : Config).topology.interval rested (.send true) signed := .send rfl true
  have hrest : Reaches 2 ({} : Config).topology.interval Act.isFinal signed last :=
    reaches_paused_succ _ nofun nofun () (by decide) signed.flag
  have hone : rested.cycles = 1 := cycles_paused ..
  have htwo : last.cycles = 2 := cycles_paused ..
  obtain ⟨-, -, -, hbound, -⟩ := shutdown_never_missed hinterval (by decide) hrun
  obtain ⟨-, hlast⟩ := (hbound _ _ _ (.inl rfl) hsign hrest).2 ⟨_, _, rfl⟩
  obtain ⟨u, v, hsu, -, hsigned, hdue, hvt⟩ := hlast (by omega)
  exact ⟨rested, signed, last, hrun, hsign, hrest, hone, htwo, u, v, hsu, hsigned, hdue, hvt⟩

end NodeLabels.Topology.Race
