import NodeLabels.Calendar.Date
import NodeLabels.Span
/-!
# Instants

An instant is a count of seconds from 1970-01-01 and a part of a second. On the last second of a
minute the part may reach past the second: such an instant lies in a leap second. The calendar ends
on both sides, so not every count is an instant.
-/

namespace NodeLabels.Calendar

def firstDay : Int := (Date.mk (-262143) 1 1).toDays

def lastDay : Int := (Date.mk 262142 12 31).toDays

/-- The seconds that belong to a day of the calendar. -/
def inCalendar (secs : Int) : Bool := firstDay * 86400 ≤ secs && secs < (lastDay + 1) * 86400

structure Instant where
  secs : Int
  nanos : Nat := 0
  inCalendar : inCalendar secs = true := by decide
  nanos_lt : nanos < 2000000000 := by decide
  leap : 1000000000 ≤ nanos → secs % 60 = 59 := by decide
deriving DecidableEq

namespace Instant

def of? (secs : Int) (nanos : Nat) : Option Instant :=
  if h : Calendar.inCalendar secs = true ∧ nanos < 2000000000 ∧
      (1000000000 ≤ nanos → secs % 60 = 59) then
    some { secs, nanos, inCalendar := h.1, nanos_lt := h.2.1, leap := h.2.2 }
  else none

/-- Nanoseconds from 1970-01-01T00:00:00. -/
def position (t : Instant) : Int := t.secs * 1000000000 + t.nanos

/-- The instant at a position that is in no leap second. -/
def atPosition? (position : Int) : Option Instant :=
  of? (position.fdiv 1000000000) (position.fmod 1000000000).toNat

/-- The instant `length` before `t`. It stays in the leap second of `t` as long as it can. -/
def before? (t : Instant) (length : Span) : Option Instant :=
  if length.secs = 0 ∧ length.nanos + 1000000000 ≤ t.nanos then of? t.secs (t.nanos - length.nanos)
  else atPosition? (t.position - length.toNanos)

end Instant

end NodeLabels.Calendar
