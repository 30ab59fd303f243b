/-!
# Doubles

The double nearest to a fraction, products and quotients of doubles, and the shortest decimal number
that reads back as a given double. All of it is exact arithmetic on whole numbers.
-/

namespace NodeLabels

/-- The number `digits * 10 ^ exponent`. -/
structure Decimal where
  digits : Nat
  exponent : Int
deriving DecidableEq, Repr

namespace Decimal

/-- The number `mantissa * 2 ^ exponent`. -/
structure Binary where
  mantissa : Nat
  exponent : Int
deriving DecidableEq, Repr

/-- `num / den * base ^ (-e)` as a fraction. -/
def scale (base num den : Nat) (e : Int) : Nat × Nat :=
  if 0 ≤ e then (num, den * Nat.pow base e.toNat) else (num * Nat.pow base (-e).toNat, den)

/-- The whole number nearest to a fraction; a tie goes to the even one. -/
def roundEven (num den : Nat) : Nat :=
  let q := num / den
  let r := num % den
  if 2 * r < den then q else if den < 2 * r then q + 1 else q + q % 2

/-- The double nearest to a fraction, whatever its size. -/
def nearest (num den : Nat) : Binary :=
  if num = 0 then { mantissa := 0, exponent := -1074 }
  else
    let d : Int := (Nat.log2 num : Int) - Nat.log2 den
    let below := scale 2 num den d
    let e := max (if below.1 < below.2 then d - 53 else d - 52) (-1074)
    let scaled := scale 2 num den e
    let m := roundEven scaled.1 scaled.2
    if m = 9007199254740992 then { mantissa := 4503599627370496, exponent := e + 1 }
    else { mantissa := m, exponent := e }

/-- Whether the double is past the largest one. -/
def Binary.isInfinite (b : Binary) : Bool := 971 < b.exponent

/-- The double nearest to `num / den * 2 ^ e`. -/
def nearestScaled (num den : Nat) (e : Int) : Binary :=
  nearest (scale 2 num den (-e)).1 (scale 2 num den (-e)).2

def Binary.times (a b : Binary) : Binary :=
  nearestScaled (a.mantissa * b.mantissa) 1 (a.exponent + b.exponent)

def Binary.over (a b : Binary) : Binary :=
  nearestScaled a.mantissa b.mantissa (a.exponent - b.exponent)

/-- The double nearest to a power of ten. -/
def powerOfTen (n : Nat) : Binary := nearest (Nat.pow 10 n) 1

/-- The points of the grid of multiples of `10 ^ k` on both sides of `v`, as far as they lie between
`low` and `high`, all over the denominator `den`; the nearer one if both do. -/
def gridPoint? (v low high den : Nat) (closed : Bool) (k : Int) : Option Nat :=
  let unit := if 0 ≤ k then den * Nat.pow 10 k.toNat else den
  let factor := if 0 ≤ k then 1 else Nat.pow 10 (-k).toNat
  let c := v * factor / unit
  let inside := fun n => if closed then low * factor ≤ n * unit && n * unit ≤ high * factor
    else low * factor < n * unit && n * unit < high * factor
  match inside c, inside (c + 1) with
  | true, true =>
    let below := v * factor - c * unit
    let above := (c + 1) * unit - v * factor
    some (if below < above then c else if above < below then c + 1 else c + c % 2)
  | true, false => some c
  | false, true => some (c + 1)
  | false, false => none

/-- How many decimal digits the whole part of a fraction has, or the negated number of zeros after
the point. -/
def magnitude (num den : Nat) : Int :=
  if den ≤ num then (Nat.toDigits 10 (num / den)).length
  else 1 - (Nat.toDigits 10 ((den - 1) / num)).length

/-- The decimal number with the fewest digits among those nearest to the double. -/
def Binary.shortest (b : Binary) : Decimal :=
  if b.mantissa = 0 then { digits := 0, exponent := 0 }
  else
    let low := if b.mantissa = 4503599627370496 ∧ -1074 < b.exponent then 4 * b.mantissa - 1
      else 4 * b.mantissa - 2
    let e := b.exponent - 2
    let up := if 0 ≤ e then Nat.pow 2 e.toNat else 1
    let den := if 0 ≤ e then 1 else Nat.pow 2 (-e).toNat
    let v := 4 * b.mantissa * up
    let top := magnitude v den
    let tries := (List.range 18).filterMap fun n =>
      let k := top - (n + 1 : Nat)
      (gridPoint? v (low * up) ((4 * b.mantissa + 2) * up) den (b.mantissa % 2 = 0) k).map (·, k)
    match tries.head? with
    | some (digits, exponent) => { digits, exponent }
    | none => { digits := 0, exponent := 0 }

/-- The digits without zeros at the end. -/
def trimmed (d : Decimal) : List Char × Int :=
  let digits := Nat.toDigits 10 d.digits
  let zeros := (digits.reverse.takeWhile (· = '0')).length
  (digits.take (digits.length - zeros), d.exponent + zeros)

/-- A decimal number with a point or an exponent: positional from 0.00001 to below 10 ^ 16. -/
def text (d : Decimal) : List Char :=
  if d.digits = 0 then ['0', '.', '0']
  else
    let (digits, k) := d.trimmed
    let point : Int := digits.length + k
    if 0 ≤ k ∧ point ≤ 16 then digits ++ List.replicate k.toNat '0' ++ ['.', '0']
    else if 0 < point ∧ point ≤ 16 then
      digits.take point.toNat ++ '.' :: digits.drop point.toNat
    else if -5 < point ∧ point ≤ 0 then
      ['0', '.'] ++ List.replicate (-point).toNat '0' ++ digits
    else
      let e := point - 1
      digits.take 1 ++ (if digits.length = 1 then [] else '.' :: digits.drop 1) ++
        'e' :: (if e < 0 then '-' else '+') :: Nat.toDigits 10 e.natAbs

end Decimal

end NodeLabels
