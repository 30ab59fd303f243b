import NodeLabels.Decimal.Shortest
import NodeLabels.Json.Parser
/-!
# Numbers of a document as text

Whole numbers of 64 bits are kept to the last digit. Any other number is taken as a double and
written with the fewest digits that read back as that double. It is not the nearest double: the
first digits, as many as 64 bits hold, are rounded to one, which is multiplied or divided by that of
a power of ten.
-/

namespace NodeLabels.Json.Number

/-- Appends digits as long as 64 bits hold the number. The others are left over. -/
def appendDigits : Nat → List Char → Nat × List Char
  | n, [] => (n, [])
  | n, d :: ds =>
    let next := 10 * n + (d.toNat - '0'.toNat)
    if next < 18446744073709551616 then appendDigits next ds else (n, d :: ds)

/-- The first digits of the number, and the power of ten that goes with them. Digits of the whole
part that are left over count for the power, and those of the fraction for nothing. -/
def leading (n : Number) : Decimal :=
  let whole := appendDigits 0 (Nat.toDigits 10 n.whole)
  let all := appendDigits whole.1 n.fraction
  { digits := all.1
    exponent := whole.2.length - (n.fraction.length - all.2.length) + n.exponent.getD 0 }

/-- The power of ten past which there is no double. -/
def lastPower : Nat := 308

/-- Divides by the last power of ten, so many times or until nothing is left. -/
def divideOften (b : Decimal.Binary) : Nat → Decimal.Binary
  | 0 => b
  | n + 1 =>
    if b.mantissa = 0 then b else divideOften (b.over (Decimal.powerOfTen lastPower)) n

/-- Divides by a power of ten in steps for which there are doubles. -/
def divide (b : Decimal.Binary) (power : Nat) : Decimal.Binary :=
  let steps := (power - 1) / lastPower
  (divideOften b steps).over (Decimal.powerOfTen (power - lastPower * steps))

/-- The double, unless it is past the largest one. -/
def toDouble? (n : Number) : Option Decimal.Binary :=
  let d := n.leading
  let b := Decimal.nearest d.digits 1
  if d.exponent < 0 then some (divide b d.exponent.natAbs)
  else if lastPower < d.exponent then if d.digits = 0 then some b else none
  else
    let product := b.times (Decimal.powerOfTen d.exponent.natAbs)
    if product.isInfinite then none else some product

def isWord (n : Number) : Bool :=
  match n.toInt? with
  | some i => -9223372036854775808 ≤ i && i < 18446744073709551616
  | none => false

/-- The number as text, unless it is too large. -/
def text? (n : Number) : Option String :=
  if n.isWord then some (String.ofList n.chars)
  else n.toDouble?.map fun b =>
    String.ofList ((if n.negative then ['-'] else []) ++ b.shortest.text)

end NodeLabels.Json.Number
