import NodeLabels.Calendar.Instant
/-!
# Instants of the first day

The seconds of 1970-01-01 are instants.
-/

namespace NodeLabels.Calendar

theorem firstDay_le : firstDay ≤ 0 := by decide

theorem le_lastDay : 0 ≤ lastDay := by decide

theorem inCalendar_mod (n : Nat) : inCalendar (n % 86400 : Nat) = true := by
  have hfirst := firstDay_le
  have hlast := le_lastDay
  have hlt : n % 86400 < 86400 := Nat.mod_lt n (by decide)
  simp only [inCalendar, Bool.and_eq_true, decide_eq_true_eq]
  omega

theorem zero_nanos_lt : 0 < 2000000000 := by decide

theorem not_leap (secs : Int) : 1000000000 ≤ 0 → secs % 60 = 59 := fun h => absurd h (by decide)

/-- The given second of the first day, counted round. -/
def Instant.early (n : Nat) : Instant where
  secs := (n % 86400 : Nat)
  inCalendar := inCalendar_mod n
  nanos_lt := zero_nanos_lt
  leap := not_leap _

end NodeLabels.Calendar
