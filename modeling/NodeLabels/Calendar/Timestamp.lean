import NodeLabels.Calendar.Instant
import NodeLabels.Text.Digits
/-!
# Timestamps

An instant as text in the form of RFC 3339, in whole seconds of universal time. Years past 9999 and
before 0 carry a sign, and the second of a leap second is written 60.
-/

namespace NodeLabels.Calendar

/-- Decimal digits, with zeros in front up to the given width. -/
def padded (width n : Nat) : List Char :=
  let digits := Nat.toDigits 10 n
  List.replicate (width - digits.length) '0' ++ digits

def yearText (year : Int) : List Char :=
  if 0 ≤ year ∧ year ≤ 9999 then padded 4 year.toNat
  else (if year < 0 then '-' else '+') :: padded 4 year.natAbs

def Date.chars (d : Date) : List Char :=
  yearText d.year ++ '-' :: padded 2 d.month ++ '-' :: padded 2 d.day

/-- The time of day after so many seconds, with `extra` seconds added to the last place. -/
def clockText (secondOfDay extra : Nat) : List Char :=
  padded 2 (secondOfDay / 3600) ++ ':' :: padded 2 (secondOfDay / 60 % 60) ++
    ':' :: padded 2 (secondOfDay % 60 + extra)

def Instant.chars (t : Instant) : List Char :=
  let day := t.secs.fdiv 86400
  let secondOfDay := (t.secs.fmod 86400).toNat
  (Date.ofDays day).chars ++ 'T' :: clockText secondOfDay (t.nanos / 1000000000) ++ ['Z']

def Instant.timestamp (t : Instant) : String := String.ofList t.chars

/-- Reads a timestamp with a year of four digits. A date or time that does not exist is refused, a
leap second with it. -/
def Instant.ofChars? (cs : List Char) : Option Instant := do
  let (year, rest) := (cs.take 4, cs.drop 4)
  match rest with
  | ['-', m₁, m₂, '-', d₁, d₂, 'T', h₁, h₂, ':', n₁, n₂, ':', s₁, s₂, 'Z'] =>
    let date : Date := ⟨← Text.decimal? year, ← Text.decimal? [m₁, m₂], ← Text.decimal? [d₁, d₂]⟩
    let hour ← Text.decimal? [h₁, h₂]
    let minute ← Text.decimal? [n₁, n₂]
    let second ← Text.decimal? [s₁, s₂]
    if Date.ofDays date.toDays = date ∧ hour < 24 ∧ minute < 60 ∧ second < 60 then
      Instant.of? (date.toDays * 86400 + hour * 3600 + minute * 60 + second) 0
    else none
  | _ => none

end NodeLabels.Calendar
