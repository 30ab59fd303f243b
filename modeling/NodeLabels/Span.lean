/-!
# Spans of time

A span is a length of time in whole seconds and nanoseconds.
-/

namespace NodeLabels

structure Span where
  secs : Nat
  nanos : Nat := 0
  secs_lt : secs < 18446744073709551616 := by decide
  nanos_lt : nanos < 1000000000 := by decide
deriving DecidableEq, Repr

namespace Span

def zero : Span := { secs := 0 }

/-- The span of so many seconds and nanoseconds, if they are in range. -/
def of? (secs nanos : Nat) : Option Span :=
  if h : secs < 18446744073709551616 ∧ nanos < 1000000000 then
    some { secs, nanos, secs_lt := h.1, nanos_lt := h.2 }
  else none

/-- So many whole seconds, or none if they are out of range. -/
def seconds (n : Nat) : Span := (of? n 0).getD zero

def toNanos (s : Span) : Nat := s.secs * 1000000000 + s.nanos

def isZero (s : Span) : Bool := s.secs = 0 && s.nanos = 0

@[simp] theorem toNanos_zero : zero.toNanos = 0 := rfl

theorem isZero_iff {s : Span} : s.isZero = true ↔ s.toNanos = 0 := by
  simp only [isZero, toNanos, Bool.and_eq_true, decide_eq_true_eq]
  omega

theorem ext_toNanos {s t : Span} (h : s.toNanos = t.toNanos) : s = t := by
  obtain ⟨a, b, _, hb⟩ := s
  obtain ⟨c, d, _, hd⟩ := t
  simp only [toNanos] at h
  have : a = c ∧ b = d := by omega
  simp [this]

/-- The digits of a fraction of a second in units of `10 ^ -digits`, without zeros at the end. -/
def fractionText (digits amount : Nat) : String :=
  let shown := (Nat.toDigits 10 (Nat.pow 10 digits + amount)).tail
  String.ofList ((shown.reverse.dropWhile (· = '0')).reverse)

/-- An amount of some unit, with the rest in units of `10 ^ -digits`. -/
def unitText (whole rest digits : Nat) (unit : String) : String :=
  if rest = 0 then s!"{whole}{unit}" else s!"{whole}.{fractionText digits rest}{unit}"

/-- The span in the largest unit that it fills: `600s`, `1.5s`, `1ms`, `3.2µs`, `7ns`. -/
def shortText (s : Span) : String :=
  if s.secs > 0 then unitText s.secs s.nanos 9 "s"
  else if s.nanos ≥ 1000000 then unitText (s.nanos / 1000000) (s.nanos % 1000000) 6 "ms"
  else if s.nanos ≥ 1000 then unitText (s.nanos / 1000) (s.nanos % 1000) 3 "µs"
  else s!"{s.nanos}ns"

end Span

end NodeLabels
