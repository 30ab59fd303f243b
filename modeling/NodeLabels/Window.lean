import NodeLabels.Calendar.Instant
/-!
# Time windows

The stretch of time that a monitoring query covers.
-/

namespace NodeLabels

open Calendar (Instant)

structure Window where
  start : Instant
  stop : Instant
deriving DecidableEq

namespace Window

/-- The longest length of a window that counts as one: 2^63 - 1 milliseconds, in nanoseconds. -/
def longest : Nat := 9223372036854775807 * 1000000

/-- A span that is too long counts as none. -/
def effectiveLength (length : Span) : Span :=
  if length.toNanos ≤ longest then length else .zero

/-- The window of the given length that ends at `stop`, if the calendar reaches back to its
start. -/
def endingAt? (stop : Instant) (length : Span) : Option Window :=
  (stop.before? (effectiveLength length)).map fun start => { start, stop }

end Window

end NodeLabels
