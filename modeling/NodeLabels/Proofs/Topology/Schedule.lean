import Mathlib.Algebra.GroupWithZero.Nat
import Mathlib.Data.List.Induction
import Mathlib.Data.List.TakeWhile
import NodeLabels.Topology.Cadence
/-!
# The schedule of the job

The times at which cycles are due follow from the times at which the stop flag gave a sign. From one
sign to go on to the next a cycle is run at once and then one after each full interval; the first
sign to stop, or the last setter of the flag to leave, ends the count.
-/

namespace NodeLabels.Topology.Clockwork

/-! ## Times -/

/-- How far a happening moves the clock. -/
def span : Happening → Nat
  | .advance ms => ms
  | .send _ => 0
  | .drop => 0

def elapsed (script : List Happening) : Nat := (script.map span).sum

/-- The signs that the flag gives in a script that begins at `now`, and their times. -/
def signs (now : Nat) : List Happening → List (Nat × Wake)
  | [] => []
  | .advance ms :: script => signs (now + ms) script
  | .send stop :: script => (now, .changed stop) :: signs now script
  | .drop :: script => (now, .abandoned) :: signs now script

/-- A value that was set before the start is a sign at the start. -/
def allSigns (sent : Option Bool) (script : List Happening) : List (Nat × Wake) :=
  (sent.map fun stop => (0, Wake.changed stop)).toList ++ signs 0 script

/-- The times of the signs to go on, before there was one to stop. -/
def restarts (sent : Option Bool) (script : List Happening) : List Nat :=
  ((allSigns sent script).takeWhile fun sign => ! sign.2.stops).map Prod.fst

/-- The time of the first sign to stop. -/
def stopTime? (sent : Option Bool) (script : List Happening) : Option Nat :=
  ((allSigns sent script).find? (·.2.stops)).map Prod.fst

/-- The present time, or the time at which the job stopped. -/
def reached (sent : Option Bool) (script : List Happening) : Nat :=
  (stopTime? sent script).getD (elapsed script)

/-- The cycles until `time` with an interval of `i` milliseconds and restarts at the given times,
the start being at 0. -/
def cycleCount (i : Nat) (restarts : List Nat) (time : Nat) : Nat :=
  (List.zipWith (fun t t' => 1 + (t' - t) / i) (0 :: restarts) restarts).sum +
    (1 + (time - restarts.getLastD 0) / i)

theorem elapsed_append (script more : List Happening) :
    elapsed (script ++ more) = elapsed script + elapsed more := by
  simp [elapsed]

theorem signs_append (now : Nat) (script more : List Happening) :
    signs now (script ++ more) = signs now script ++ signs (now + elapsed script) more := by
  induction script generalizing now with
  | nil => rfl
  | cons h script ih => cases h <;> simp [signs, ih, elapsed, span, Nat.add_assoc]

theorem le_of_mem_signs {now : Nat} {script : List Happening} {sign : Nat × Wake}
    (h : sign ∈ signs now script) : sign.1 ≤ now + elapsed script := by
  induction script generalizing now with
  | nil => exact nomatch h
  | cons x script ih =>
    have hsum : elapsed (x :: script) = span x + elapsed script := rfl
    rw [hsum]
    cases x with
    | advance ms =>
      have hle := ih h
      rwa [Nat.add_assoc] at hle
    | send stop =>
      rw [span, Nat.zero_add]
      obtain rfl | h := List.mem_cons.1 h
      · exact Nat.le_add_right ..
      · exact ih h
    | drop =>
      rw [span, Nat.zero_add]
      obtain rfl | h := List.mem_cons.1 h
      · exact Nat.le_add_right ..
      · exact ih h

theorem exists_stop_signs (now : Nat) (script : List Happening) :
    (∃ sign ∈ signs now script, sign.2.stops = true) ↔ .send true ∈ script ∨ .drop ∈ script := by
  induction script generalizing now with
  | nil => simp [signs]
  | cons x script ih =>
    cases x with
    | advance ms => simpa [signs] using ih (now + ms)
    | send stop =>
      cases stop with
      | false => simpa [signs, Wake.stops] using ih now
      | true => simp [signs, Wake.stops]
    | drop => simp [signs, Wake.stops]

theorem allSigns_append (sent : Option Bool) (script more : List Happening) :
    allSigns sent (script ++ more) = allSigns sent script ++ signs (elapsed script) more := by
  rw [allSigns, signs_append, Nat.zero_add, ← List.append_assoc]
  rfl

/-- There is a time to stop once the flag was set to stop or left alone for good. -/
theorem stopTime?_isSome (sent : Option Bool) (script : List Happening) :
    (stopTime? sent script).isSome = true ↔
      sent = some true ∨ .send true ∈ script ∨ .drop ∈ script := by
  rw [stopTime?, Option.isSome_map, List.find?_isSome, ← exists_stop_signs 0 script]
  rcases sent with - | - | - <;> simp [allSigns, Wake.stops]

section

variable {sent : Option Bool} {seen : List Happening}

theorem restarts_le {t : Nat} (h : t ∈ restarts sent seen) : t ≤ elapsed seen := by
  obtain ⟨sign, hsign, rfl⟩ := List.mem_map.1 h
  obtain hsent | hseen := List.mem_append.1 ((List.takeWhile_prefix _).subset hsign)
  · obtain ⟨stop, -, rfl⟩ : ∃ stop, sent = some stop ∧ (0, Wake.changed stop) = sign := by
      simpa using hsent
    exact Nat.zero_le _
  · exact Nat.zero_add (elapsed seen) ▸ le_of_mem_signs hseen

theorem lastRestart_le : (restarts sent seen).getLastD 0 ≤ elapsed seen := by
  obtain h | h := List.mem_cons.1 (List.getLastD_mem_cons (l := restarts sent seen) (a := 0))
  · rw [h]
    exact Nat.zero_le _
  · exact restarts_le h

/-! What comes after the time to stop changes nothing, and what comes before it counts in full. -/

theorem stopTime?_append_of_some {t : Nat} (h : stopTime? sent seen = some t)
    (more : List Happening) : stopTime? sent (seen ++ more) = some t := by
  obtain ⟨sign, hfind, rfl⟩ := Option.map_eq_some_iff.1 h
  rw [stopTime?, allSigns_append, List.find?_append, hfind]
  rfl

theorem restarts_append_of_some {t : Nat} (h : stopTime? sent seen = some t)
    (more : List Happening) : restarts sent (seen ++ more) = restarts sent seen := by
  obtain ⟨sign, hfind, -⟩ := Option.map_eq_some_iff.1 h
  have hshort : ((allSigns sent seen).takeWhile fun s => ! s.2.stops).length ≠
      (allSigns sent seen).length := by
    intro hlength
    have hall := List.takeWhile_eq_self_iff.1 ((List.takeWhile_prefix _).eq_of_length hlength)
    have hsign := hall sign (List.mem_of_find?_eq_some hfind)
    rw [List.find?_some hfind] at hsign
    exact nomatch hsign
  rw [restarts, allSigns_append, List.takeWhile_append, if_neg hshort]
  rfl

theorem stopTime?_append_of_none (h : stopTime? sent seen = none) (more : List Happening) :
    stopTime? sent (seen ++ more) =
      ((signs (elapsed seen) more).find? (·.2.stops)).map Prod.fst := by
  rw [stopTime?, allSigns_append, List.find?_append, Option.map_eq_none_iff.1 h]
  rfl

theorem restarts_append_of_none (h : stopTime? sent seen = none) (more : List Happening) :
    restarts sent (seen ++ more) = restarts sent seen ++
      ((signs (elapsed seen) more).takeWhile fun sign => ! sign.2.stops).map Prod.fst := by
  have hgo : ∀ s ∈ allSigns sent seen, (! s.2.stops) = true := by
    simpa using List.find?_eq_none.1 (Option.map_eq_none_iff.1 h)
  rw [restarts, allSigns_append, List.takeWhile_append_of_pos hgo, List.map_append, restarts,
    List.takeWhile_eq_self_iff.2 hgo]

end

/-! ## Counting -/

theorem zipWith_concat (f : Nat → Nat → Nat) (a : Nat) (ts : List Nat) (t : Nat) :
    List.zipWith f (a :: (ts ++ [t])) (ts ++ [t]) =
      List.zipWith f (a :: ts) ts ++ [f (ts.getLastD a) t] := by
  induction ts generalizing a with
  | nil => rfl
  | cons b ts ih =>
    rw [List.cons_append, List.zipWith_cons_cons, ih, List.getLastD_cons]
    rfl

/-- Since the last restart only the time counts. -/
theorem exists_base (i : Nat) (ts : List Nat) :
    ∃ base, ∀ t, cycleCount i ts t = base + (t - ts.getLastD 0) / i :=
  ⟨_, fun _ => (Nat.add_assoc ..).symm⟩

/-- A restart adds a cycle at once. -/
theorem cycleCount_restart (i : Nat) (ts : List Nat) (t : Nat) :
    cycleCount i (ts ++ [t]) t = cycleCount i ts t + 1 := by
  simp [cycleCount, zipWith_concat, Nat.add_assoc]

/-- Some time adds a cycle for each interval that fits in, and one more at most. -/
theorem cycleCount_add_le {i : Nat} (hi : 0 < i) (ts : List Nat) (t ms : Nat) :
    cycleCount i ts (t + ms) ≤ cycleCount i ts t + (ms / i + 1) := by
  have hsum (e : Nat) : (e + ms) / i ≤ e / i + (ms / i + 1) := by
    rw [Nat.add_div hi]
    split <;> omega
  have hmono : (t + ms - ts.getLastD 0) / i ≤ (t - ts.getLastD 0 + ms) / i :=
    Nat.div_le_div_right (by omega)
  obtain ⟨base, hbase⟩ := exists_base i ts
  rw [hbase, hbase, Nat.add_assoc]
  exact Nat.add_le_add_left (Nat.le_trans hmono (hsum _)) base

/-- The cycles that a script brings about. -/
def cyclesBy (i : Nat) (sent : Option Bool) (script : List Happening) : Nat :=
  cycleCount i (restarts sent script) (reached sent script)

section

variable {interval : Span} {i : Nat} {sent : Option Bool} {seen : List Happening}

theorem cyclesBy_of_some {t : Nat} (h : stopTime? sent seen = some t) :
    cyclesBy i sent seen = cycleCount i (restarts sent seen) t := by
  rw [cyclesBy, reached, h, Option.getD_some]

theorem cyclesBy_of_none (h : stopTime? sent seen = none) :
    cyclesBy i sent seen = cycleCount i (restarts sent seen) (elapsed seen) := by
  rw [cyclesBy, reached, h, Option.getD_none]

theorem one_le_cyclesBy : 1 ≤ cyclesBy i sent seen :=
  Nat.le_trans (Nat.le_add_right 1 _) (Nat.le_add_left _ _)

theorem cyclesBy_append_of_some {t : Nat} (h : stopTime? sent seen = some t)
    (more : List Happening) : cyclesBy i sent (seen ++ more) = cyclesBy i sent seen := by
  rw [cyclesBy_of_some h, cyclesBy_of_some (stopTime?_append_of_some h more),
    restarts_append_of_some h]

/-- A sign to stop adds no cycle. -/
theorem cyclesBy_stop (h : stopTime? sent seen = none) {x : Happening}
    {sign : Wake} (hsigns : signs (elapsed seen) [x] = [(elapsed seen, sign)])
    (hstops : sign.stops = true) :
    stopTime? sent (seen ++ [x]) = some (elapsed seen) ∧
      cyclesBy i sent (seen ++ [x]) = cyclesBy i sent seen := by
  have hstop : stopTime? sent (seen ++ [x]) = some (elapsed seen) := by
    simp [stopTime?_append_of_none h, hsigns, hstops]
  have hrestarts : restarts sent (seen ++ [x]) = restarts sent seen := by
    simp [restarts_append_of_none h, hsigns, hstops]
  exact ⟨hstop, by rw [cyclesBy_of_some hstop, cyclesBy_of_none h, hrestarts]⟩

/-- A sign to go on adds one cycle, from which the time to the next is counted. -/
theorem cyclesBy_send_false (h : stopTime? sent seen = none) :
    stopTime? sent (seen ++ [.send false]) = none ∧
      restarts sent (seen ++ [.send false]) = restarts sent seen ++ [elapsed seen] ∧
        cyclesBy i sent (seen ++ [.send false]) = cyclesBy i sent seen + 1 := by
  have hstop : stopTime? sent (seen ++ [.send false]) = none := by
    simp [stopTime?_append_of_none h, signs, Wake.stops]
  have hrestarts :
      restarts sent (seen ++ [.send false]) = restarts sent seen ++ [elapsed seen] := by
    simp [restarts_append_of_none h, signs, Wake.stops]
  refine ⟨hstop, hrestarts, ?_⟩
  rw [cyclesBy_of_none hstop, cyclesBy_of_none h, hrestarts, elapsed_append]
  exact cycleCount_restart i _ _

theorem cyclesBy_advance (h : stopTime? sent seen = none) (ms : Nat) :
    stopTime? sent (seen ++ [.advance ms]) = none ∧
      restarts sent (seen ++ [.advance ms]) = restarts sent seen := by
  constructor
  · simp [stopTime?_append_of_none h, signs]
  · simp [restarts_append_of_none h, signs]

/-! ## Patience -/

theorem patienceFor_concat (script : List Happening) (x : Happening) :
    patienceFor interval script < patienceFor interval (script ++ [x]) := by
  rw [patienceFor, patienceFor, List.foldl_append]
  exact Nat.lt_of_lt_of_le (Nat.lt_succ_self _) (Nat.le_add_right _ _)

theorem patienceFor_advance (hi : milliseconds interval = i) (hpos : 0 < i)
    (script : List Happening) (ms : Nat) :
    patienceFor interval (script ++ [.advance ms]) =
      patienceFor interval script + 1 + (ms / i + 1) := by
  have hmax : max 1 i = i := Nat.max_eq_right hpos
  rw [patienceFor, patienceFor, List.foldl_append, hi]
  simp only [List.foldl_cons, List.foldl_nil, hmax]

theorem patienceFor_le_append (script more : List Happening) :
    patienceFor interval script ≤ patienceFor interval (script ++ more) := by
  induction more using List.reverseRecOn with
  | nil => rw [List.append_nil]
  | append_singleton more x ih =>
    rw [← List.append_assoc]
    exact Nat.le_trans ih (Nat.le_of_lt (patienceFor_concat _ x))

/-- A script never brings about more cycles than it gives patience for. -/
theorem cyclesBy_lt_patienceFor (hi : milliseconds interval = i) (hpos : 0 < i)
    (sent : Option Bool) (script : List Happening) :
    cyclesBy i sent script < patienceFor interval script := by
  induction script using List.reverseRecOn with
  | nil =>
    have hnil : patienceFor interval [] = 3 := rfl
    rw [hnil]
    rcases sent with - | - | - <;>
      simp [cyclesBy, cycleCount, restarts, reached, stopTime?, allSigns, signs, Wake.stops,
        elapsed]
  | append_singleton script x ih =>
    have hgrow : patienceFor interval script < patienceFor interval (script ++ [x]) :=
      patienceFor_concat script x
    cases hstop : stopTime? sent script with
    | some t =>
      rw [cyclesBy_append_of_some hstop]
      exact Nat.lt_trans ih hgrow
    | none =>
      cases x with
      | advance ms =>
        obtain ⟨hstop', hrestarts⟩ := cyclesBy_advance hstop ms
        have hadd := cycleCount_add_le hpos (restarts sent script) (elapsed script) ms
        rw [cyclesBy_of_none hstop] at ih
        rw [cyclesBy_of_none hstop', hrestarts, elapsed_append, patienceFor_advance hi hpos]
        exact Nat.lt_of_le_of_lt hadd (by omega)
      | send stop =>
        cases stop with
        | true =>
          rw [(cyclesBy_stop hstop rfl rfl).2]
          exact Nat.lt_trans ih hgrow
        | false =>
          rw [(cyclesBy_send_false hstop).2.2]
          omega
      | drop =>
        rw [(cyclesBy_stop hstop rfl rfl).2]
        exact Nat.lt_trans ih hgrow

end

end NodeLabels.Topology.Clockwork
