/-!
# Calendar dates

Dates of the Gregorian calendar, extended to all years, and their count in days from 1970-01-01.
Years are counted from March, so that a leap day ends its year, in eras of 400 years.
-/

namespace NodeLabels.Calendar

structure Date where
  year : Int
  month : Nat
  day : Nat
deriving DecidableEq, Repr

/-- Days of an era before the year `y` of it. -/
def daysBeforeYear (y : Nat) : Nat := 365 * y + y / 4 - y / 100

/-- Days of a year before the month `m`, March being month 0. -/
def daysBeforeMonth (m : Nat) : Nat := (153 * m + 2) / 5

/-- The date that comes `days` after 1970-01-01. -/
def Date.ofDays (days : Int) : Date :=
  -- 719468 days lie between 0000-03-01 and 1970-01-01, and an era has 146097
  let shifted := days + 719468
  let era := shifted.fdiv 146097
  let dayOfEra := (shifted.fmod 146097).toNat
  let yearOfEra := (dayOfEra - dayOfEra / 1460 + dayOfEra / 36524 - dayOfEra / 146096) / 365
  let dayOfYear := dayOfEra - daysBeforeYear yearOfEra
  let marchMonth := (5 * dayOfYear + 2) / 153
  let month := if marchMonth < 10 then marchMonth + 3 else marchMonth - 9
  { year := yearOfEra + era * 400 + if month ≤ 2 then 1 else 0
    month := month
    day := dayOfYear - daysBeforeMonth marchMonth + 1 }

/-- The number of days from 1970-01-01 to the date. -/
def Date.toDays (d : Date) : Int :=
  let year := if d.month ≤ 2 then d.year - 1 else d.year
  let era := year.fdiv 400
  let yearOfEra := (year.fmod 400).toNat
  let marchMonth := if d.month > 2 then d.month - 3 else d.month + 9
  let dayOfEra := daysBeforeYear yearOfEra + daysBeforeMonth marchMonth + d.day - 1
  era * 146097 + dayOfEra - 719468

example : Date.ofDays 11016 = ⟨2000, 2, 29⟩ := by decide

example : (Date.ofDays (-719529)).toDays = -719529 := by decide

end NodeLabels.Calendar
