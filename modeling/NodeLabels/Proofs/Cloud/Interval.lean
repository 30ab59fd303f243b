import NodeLabels.Proofs.Calendar.Timestamp
import NodeLabels.Proofs.Cloud.Parameters
import NodeLabels.Proofs.Window
/-!
# The interval of a query

The interval that is asked for is the window rounded down to the second at both ends: it is not
inverted, and it has the length of the window but for one rounding (`interval_roundsDown`).
-/

namespace NodeLabels

open Calendar (Instant)

namespace Window

variable {stop : Instant} {length : Span} {window : Window}

theorem start_nanos_lt (h : endingAt? stop length = some window)
    (hleap : stop.nanos < 1000000000) : window.start.nanos < 1000000000 := by
  obtain ⟨hstart, rfl⟩ := endingAt?_eq_some_iff.1 h
  obtain ⟨-, hstays⟩ := Instant.before?_eq_some_iff.1 hstart
  rw [Instant.staysInLeap_iff] at hstays
  omega

/-- The seconds of the ends are apart by the length, rounded down or up. -/
theorem secs_sub_secs (h : endingAt? stop length = some window) (hleap : stop.nanos < 1000000000)
    (hle : length.toNanos ≤ longest) :
    window.stop.secs - window.start.secs = (length.toNanos / 1000000000 : Nat) ∨
      window.stop.secs - window.start.secs = ((length.toNanos + 999999999) / 1000000000 : Nat) := by
  have hnanos := start_nanos_lt h hleap
  obtain ⟨hstart, rfl⟩ := endingAt?_eq_some_iff.1 h
  rw [effectiveLength_of_le hle] at hstart
  have hposition := Instant.position_before? hstart
  rw [Instant.position, Instant.position] at hposition
  omega

theorem start_secs_le (h : endingAt? stop length = some window) :
    window.start.secs ≤ window.stop.secs := by
  have hearlier := not_earlier_start h
  rw [Instant.Earlier] at hearlier
  omega

end Window

namespace Cloud.Monitoring

variable {m : Monitoring} {project instanceId : String} {page : Option String} {u : Url}

/-- The ends of the interval that a URL names are RFC 3339 timestamps. They are read back as the
ends of the window, each rounded down to the second, and come in the order of time, as texts too.
The seconds between them are the length that was asked for, rounded down or up, unless it is too
long to count. -/
theorem interval_roundsDown {stop : Instant} {length : Span} {window : Window}
    (hwindow : Window.endingAt? stop length = some window) (hleap : stop.nanos < 1000000000)
    (hstart : window.start.HasPlainYear) (hstop : stop.HasPlainYear)
    (hu : m.url project instanceId window page = .ok u) :
    ∃ (startTime endTime : String) (first last : Instant),
      Url.Form.decode (u.query.getD []) = ownParameters m project ++
        [("filter", filter instanceId), ("interval.startTime", startTime),
          ("interval.endTime", endTime), ("view", "HEADERS")] ++
        (page.map fun token => ("pageToken", token)).toList ∧
      first.WrittenAs startTime.toList ∧ Instant.ofChars? startTime.toList = some first ∧
      last.WrittenAs endTime.toList ∧ Instant.ofChars? endTime.toList = some last ∧
      window.start.RoundsDown first ∧ stop.RoundsDown last ∧
      startTime ≤ endTime ∧ ¬ last.Earlier first ∧
      (length.toNanos ≤ Window.longest →
        last.secs - first.secs = (length.toNanos / 1000000000 : Nat) ∨
        last.secs - first.secs = ((length.toNanos + 999999999) / 1000000000 : Nat)) := by
  obtain ⟨-, rfl⟩ := Window.endingAt?_eq_some_iff.1 hwindow
  have hnanos := Window.start_nanos_lt hwindow hleap
  have hsecs := Window.start_secs_le hwindow
  have hfirst : window.start.Plain := ⟨hstart, hnanos⟩
  have hlast : window.stop.Plain := ⟨hstop, hleap⟩
  have hdecode : Url.Form.decode (u.query.getD []) = ownParameters m project ++
      [("filter", filter instanceId), ("interval.startTime", window.start.timestamp),
        ("interval.endTime", window.stop.timestamp), ("view", "HEADERS")] ++
      (page.map fun token => ("pageToken", token)).toList := by
    rw [decode_query hu, pageQuery_eq, List.append_assoc]
  have horder : window.start.timestamp ≤ window.stop.timestamp := by
    refine String.not_lt.1 fun hlt => ?_
    rw [hlast.timestamp_lt_iff hfirst] at hlt
    omega
  have hearlier : ¬ window.stop.wholeSecond.Earlier window.start.wholeSecond := by
    rintro (hlt | ⟨-, hlt⟩)
    · exact absurd hlt (Int.not_lt.2 hsecs)
    · exact absurd hlt (Nat.lt_irrefl 0)
  exact ⟨window.start.timestamp, window.stop.timestamp, window.start.wholeSecond,
    window.stop.wholeSecond, hdecode, hfirst.writtenAs, hfirst.ofChars?_timestamp,
    hlast.writtenAs, hlast.ofChars?_timestamp, Instant.roundsDown_wholeSecond hnanos,
    Instant.roundsDown_wholeSecond hleap, horder, hearlier, Window.secs_sub_secs hwindow hleap⟩

/-- A quarter of a second after the leap day of 1968. -/
def afterLeapDay : Instant where
  secs := -57974400
  nanos := 250000000
  inCalendar := by decide
  nanos_lt := by decide
  leap := fun h => absurd h (by decide)

def endOfLeapDay : Instant where
  secs := -57974401
  nanos := 750000000
  inCalendar := by decide
  nanos_lt := by decide
  leap := fun h => absurd h (by decide)

/-- Half a second at the end of a leap day before 1970 is asked for as the second in which it
begins. -/
theorem interval_roundsDown_leapDay : ∃ u first last,
    Window.endingAt? afterLeapDay (Window.milliseconds 500) =
      some { start := endOfLeapDay, stop := afterLeapDay } ∧
    plainClient.url plainProject "1" { start := endOfLeapDay, stop := afterLeapDay } none = .ok u ∧
    Url.Form.decode (u.query.getD []) = [("filter", filter "1"),
      ("interval.startTime", "1968-02-29T23:59:59Z"),
      ("interval.endTime", "1968-03-01T00:00:00Z"), ("view", "HEADERS")] ∧
    Instant.ofChars? "1968-02-29T23:59:59Z".toList = some first ∧
    Instant.ofChars? "1968-03-01T00:00:00Z".toList = some last ∧
    endOfLeapDay.RoundsDown first ∧ afterLeapDay.RoundsDown last ∧
    last.secs - first.secs = 1 := by
  have hwindow : Window.endingAt? afterLeapDay (Window.milliseconds 500) =
      some { start := endOfLeapDay, stop := afterLeapDay } := by decide +kernel
  obtain ⟨u, hu⟩ : ∃ u, plainClient.url plainProject "1"
      { start := endOfLeapDay, stop := afterLeapDay } none = .ok u :=
    ⟨_, by rw [url, parse_plainBase]⟩
  obtain ⟨startTime, endTime, first, last, hdecode, -, hfirst, -, hlast, hdown, hdown', -, -,
    hsecs⟩ := interval_roundsDown hwindow (by decide) (by decide +kernel) (by decide +kernel) hu
  have hown : ownParameters plainClient plainProject = [] :=
    ownParameters_eq_nil (by decide +kernel) (by decide +kernel)
  have htext : pageQuery "1" { start := endOfLeapDay, stop := afterLeapDay } none =
      [("filter", filter "1"), ("interval.startTime", "1968-02-29T23:59:59Z"),
        ("interval.endTime", "1968-03-01T00:00:00Z"), ("view", "HEADERS")] := by decide +kernel
  have hquery := decode_query hu
  rw [hdecode, hown, htext] at hquery
  simp only [Option.map_none, Option.toList_none, List.append_nil, List.nil_append, List.cons.injEq,
    Prod.mk.injEq, true_and, and_true] at hquery
  obtain ⟨rfl, rfl⟩ := hquery
  refine ⟨u, first, last, hwindow, hu, by rw [hdecode, hown]; rfl, hfirst, hlast, hdown, hdown', ?_⟩
  rcases hsecs (by decide) with hsecs | hsecs
  · -- the two ends do not lie in the same second
    have hbefore : first.position ≤ -57974400250000000 := hdown.le
    have hafter : -57974399750000000 < last.position + 1000000000 := hdown'.lt
    rw [Instant.position, hdown.nanos] at hbefore
    rw [Instant.position, hdown'.nanos] at hafter
    have hnone : (Window.milliseconds 500).toNanos / 1000000000 = 0 := by decide
    rw [hnone] at hsecs
    omega
  · exact hsecs

end Cloud.Monitoring
end NodeLabels
