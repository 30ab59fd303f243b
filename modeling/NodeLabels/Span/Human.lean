import NodeLabels.Span
import NodeLabels.Text.Blank
import NodeLabels.Text.Digits
/-!
# Spans as people write them

A span is written as a list of amounts, each with its unit: `1h 30m`, `1month 2days`. Reading takes
the same units under several names, fractions, and blanks nearly everywhere. An amount that comes to
no whole number of nanoseconds is refused, and so is one that grows past 64 bits.
-/

namespace NodeLabels.Span

inductive TimeUnit
  | nanosecond | microsecond | millisecond | second | minute | hour | day | week | month | year
deriving DecidableEq, Repr

namespace TimeUnit

/-- A month is the twelfth part of a year, and a year has 365.25 days. -/
def nanos : TimeUnit → Nat
  | .nanosecond => 1
  | .microsecond => 1000
  | .millisecond => 1000000
  | .second => 1000000000
  | .minute => 60 * 1000000000
  | .hour => 3600 * 1000000000
  | .day => 86400 * 1000000000
  | .week => 604800 * 1000000000
  | .month => 2630016 * 1000000000
  | .year => 31557600 * 1000000000

def names : TimeUnit → List String
  | .nanosecond => ["nanos", "nsec", "ns"]
  | .microsecond => ["usec", "us", "µs"]
  | .millisecond => ["millis", "msec", "ms"]
  | .second => ["seconds", "second", "secs", "sec", "s"]
  | .minute => ["minutes", "minute", "min", "mins", "m"]
  | .hour => ["hours", "hour", "hr", "hrs", "h"]
  | .day => ["days", "day", "d"]
  | .week => ["weeks", "week", "wk", "wks", "w"]
  | .month => ["months", "month", "M"]
  | .year => ["years", "year", "yr", "yrs", "y"]

def all : List TimeUnit :=
  [.nanosecond, .microsecond, .millisecond, .second, .minute, .hour, .day, .week, .month, .year]

def ofName? (name : List Char) : Option TimeUnit :=
  all.find? fun u => u.names.any fun n => n.toList = name

end TimeUnit

/-! ## Writing -/

/-- An amount with its unit, left out when it is zero. -/
def amountText (n : Nat) (unit : String) : List String := if n = 0 then [] else [s!"{n}{unit}"]

/-- As `amountText`, with the plural of the unit from two on. -/
def countedText (n : Nat) (unit : String) : List String :=
  if n = 0 then [] else if n = 1 then [s!"{n}{unit}"] else [s!"{n}{unit}s"]

def amounts (s : Span) : List String :=
  let ofYear := s.secs % 31557600
  let ofMonth := ofYear % 2630016
  let ofDay := ofMonth % 86400
  countedText (s.secs / 31557600) "year" ++ countedText (ofYear / 2630016) "month" ++
    countedText (ofMonth / 86400) "day" ++ amountText (ofDay / 3600) "h" ++
    amountText (ofDay % 3600 / 60) "m" ++ amountText (ofDay % 60) "s" ++
    amountText (s.nanos / 1000000) "ms" ++ amountText (s.nanos / 1000 % 1000) "us" ++
    amountText (s.nanos % 1000) "ns"

/-- The span in its units, from years down to nanoseconds. -/
def human (s : Span) : String := if s.isZero then "0s" else " ".intercalate s.amounts

/-! ## Reading -/

/-- An amount as it is written: the digits before and after the point, and the unit. -/
structure Amount where
  whole : List Char
  fraction : List Char := []
  unit : TimeUnit

def isUnitChar (c : Char) : Bool := ('a' ≤ c && c ≤ 'z') || ('A' ≤ c && c ≤ 'Z') || c = 'µ'

/-- Digits up to the next other character; blanks between them do not count. -/
def digitsFrom (cs : List Char) : List Char × List Char :=
  let isPart := fun c : Char => c.isDigit || Text.isBlank c
  ((cs.takeWhile isPart).filter Char.isDigit, cs.dropWhile isPart)

/-- One amount at the front of a text that starts with a digit. -/
def amount? (cs : List Char) : Option (Amount × List Char) := do
  let (whole, rest) := digitsFrom cs
  if whole = [] then none
  let (fraction, rest) ← match rest with
    | '.' :: rest =>
      let (fraction, rest) := digitsFrom rest
      if fraction = [] then none else some (fraction, rest)
    | rest => some ([], rest)
  let unit ← TimeUnit.ofName? (rest.takeWhile isUnitChar)
  return ({ whole, fraction, unit }, rest.dropWhile isUnitChar)

/-- The amounts of a text. What follows a unit at once must be a digit or a blank. -/
def amounts? : (fuel : Nat) → List Char → Option (List Amount)
  | 0, _ => none
  | fuel + 1, cs => do
    let (a, rest) ← amount? cs
    match rest with
    | [] => return [a]
    | c :: _ =>
      if c.isDigit then return a :: (← amounts? fuel rest)
      else if Text.isBlank c then
        match Text.trimLeft rest with
        | [] => return [a]
        | d :: more => if d.isDigit then return a :: (← amounts? fuel (d :: more)) else none
      else none

def below64? (n : Nat) : Option Nat := if n < 18446744073709551616 then some n else none

/-- Adds seconds and nanoseconds to a span. Each sum has to stay within 64 bits. -/
def add? (s : Span) (secs nanos : Nat) : Option Span := do
  let nanos ← below64? (s.nanos + nanos)
  let secs ← below64? (secs + nanos / 1000000000)
  of? (s.secs + secs) (nanos % 1000000000)

/-- What an amount comes to, in seconds and nanoseconds. Units below a second are counted in
nanoseconds, the others in seconds. -/
def Amount.wholePart? (a : Amount) : Option (Nat × Nat) := do
  let n ← below64? (Text.decimal a.whole)
  if a.unit.nanos < 1000000000 then return (0, ← below64? (n * a.unit.nanos))
  else return (← below64? (n * (a.unit.nanos / 1000000000)), 0)

/-- The nanoseconds that the digits after the point come to. Nanoseconds have no parts. -/
def Amount.fractionPart? (a : Amount) : Option Nat :=
  if a.fraction = [] then some 0
  else
    let denominator := Nat.pow 10 a.fraction.length
    let numerator := Text.decimal a.fraction * a.unit.nanos
    if a.unit = .nanosecond ∨ 18446744073709551616 ≤ denominator ∨
        numerator % denominator ≠ 0 then none
    else some (numerator / denominator)

def addAmount? (s : Span) (a : Amount) : Option Span := do
  let (secs, nanos) ← a.wholePart?
  let s ← s.add? secs nanos
  let fraction ← a.fractionPart?
  s.add? (fraction / 1000000000) (fraction % 1000000000)

/-- The span that a text names. A bare zero needs no unit. -/
def ofHuman? (text : String) : Option Span :=
  if text = "0" then some zero
  else do
    let amounts ← amounts? (text.length + 1) (Text.trimLeft text.toList)
    amounts.foldlM addAmount? zero

end NodeLabels.Span
