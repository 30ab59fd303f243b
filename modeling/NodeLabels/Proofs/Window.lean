import NodeLabels.Proofs.Calendar.Position
import NodeLabels.Window
/-!
# The lengths of windows

A window has the length that it was asked for, except for two kinds of lengths: with one that gets
past the beginning of the calendar there is no window, and with one that does not count as a length
it is empty (`endingAt?_exact`).
-/

namespace NodeLabels.Window

open Calendar (Instant firstDay lastDay)
open Calendar.Instant (firstPosition)

/-- A window of this length that ends at `stop` begins in the calendar. -/
def Fits (stop : Instant) (length : Span) : Prop :=
  (length.toNanos : Int) ≤ stop.position - firstPosition

instance (stop : Instant) (length : Span) : Decidable (Fits stop length) :=
  inferInstanceAs (Decidable (_ ≤ _))

variable {stop : Instant} {length : Span} {window : Window}

theorem calendar_le_longest :
    ((lastDay + 1 - firstDay) * 86400 + 1) * 1000000000 ≤ (longest : Int) := by decide

/-- The whole calendar is shorter than the longest length that counts as one. -/
theorem Fits.le_longest (h : Fits stop length) : length.toNanos ≤ longest := by
  have hlast := (Instant.inCalendar_iff.1 stop.inCalendar).2
  have hnanos := stop.nanos_lt
  have hcalendar := calendar_le_longest
  rw [Fits, Instant.position, firstPosition] at h
  omega

theorem effectiveLength_of_le (h : length.toNanos ≤ longest) : effectiveLength length = length :=
  if_pos h

theorem effectiveLength_of_lt (h : longest < length.toNanos) : effectiveLength length = .zero :=
  if_neg (Nat.not_le_of_lt h)

theorem endingAt?_eq_some_iff : endingAt? stop length = some window ↔
    stop.before? (effectiveLength length) = some window.start ∧ window.stop = stop := by
  rw [endingAt?, Option.map_eq_some_iff]
  constructor
  · rintro ⟨start, hstart, rfl⟩
    exact ⟨hstart, rfl⟩
  · rintro ⟨hstart, rfl⟩
    exact ⟨window.start, hstart, rfl⟩

/-- There is no window exactly if its length counts, and gets past the beginning of the calendar. -/
theorem endingAt?_eq_none_iff :
    endingAt? stop length = none ↔ ¬ Fits stop length ∧ length.toNanos ≤ longest := by
  rw [endingAt?, Option.map_eq_none_iff, ← Option.not_isSome_iff_eq_none,
    Instant.isSome_before?_iff]
  rcases Nat.lt_or_ge longest length.toNanos with hlong | hle
  · have hfirst := stop.firstPosition_le
    rw [effectiveLength_of_lt hlong, Span.toNanos_zero]
    omega
  · rw [effectiveLength_of_le hle, Fits]
    omega

/-- A length that does not count makes an empty window. -/
theorem endingAt?_of_lt (h : longest < length.toNanos) :
    endingAt? stop length = some { start := stop, stop } := by
  rw [endingAt?_eq_some_iff, effectiveLength_of_lt h]
  exact ⟨stop.before?_zero, rfl⟩

/-- What a window looks like that has the length it was asked for. -/
structure Spans (length : Span) (window : Window) : Prop where
  position : window.start.position = window.stop.position - length.toNanos
  earlier : window.start.Earlier window.stop

theorem spans_of_le (h : endingAt? stop length = some window) (hle : length.toNanos ≤ longest)
    (hpos : 0 < length.toNanos) : window.Spans length := by
  rw [endingAt?_eq_some_iff, effectiveLength_of_le hle] at h
  obtain ⟨hstart, rfl⟩ := h
  exact ⟨Instant.position_before? hstart, Instant.earlier_before? hstart hpos⟩

theorem exists_of_fits (h : Fits stop length) (hpos : 0 < length.toNanos) :
    ∃ window, endingAt? stop length = some window ∧ window.stop = stop ∧ window.Spans length := by
  cases hwindow : endingAt? stop length with
  | none => exact absurd h (endingAt?_eq_none_iff.1 hwindow).1
  | some window =>
    exact ⟨window, rfl, (endingAt?_eq_some_iff.1 hwindow).2, spans_of_le hwindow h.le_longest hpos⟩

/-- The calendar decides whether there is a window that begins before it ends. -/
theorem usable_iff (hpos : 0 < length.toNanos) :
    (∃ window, endingAt? stop length = some window ∧ window.start.Earlier window.stop) ↔
      Fits stop length := by
  constructor
  · rintro ⟨window, hwindow, hearlier⟩
    rcases Nat.lt_or_ge longest length.toNanos with hlong | hle
    · rw [endingAt?_of_lt hlong] at hwindow
      obtain rfl := Option.some.inj hwindow
      exact absurd hearlier (Instant.not_earlier_self stop)
    · refine Decidable.byContradiction fun hfits => ?_
      rw [endingAt?_eq_none_iff.2 ⟨hfits, hle⟩] at hwindow
      cases hwindow
  · intro hfits
    obtain ⟨window, hwindow, -, hspans⟩ := exists_of_fits hfits hpos
    exact ⟨window, hwindow, hspans.earlier⟩

/-! ## Every end and every length -/

theorem not_earlier_start (h : endingAt? stop length = some window) :
    ¬ window.stop.Earlier window.start := by
  rw [endingAt?_eq_some_iff] at h
  obtain ⟨hstart, rfl⟩ := h
  rcases Nat.eq_zero_or_pos (effectiveLength length).toNanos with hzero | hpos
  · rw [Span.ext_toNanos (hzero.trans Span.toNanos_zero.symm), Instant.before?_zero] at hstart
    rw [← Option.some.inj hstart]
    exact Instant.not_earlier_self _
  · have hearlier := Instant.earlier_before? hstart hpos
    rw [Instant.Earlier] at hearlier ⊢
    omega

def milliseconds (n : Nat) : Span := (Span.of? (n / 1000) (n % 1000 * 1000000)).getD .zero

end NodeLabels.Window
