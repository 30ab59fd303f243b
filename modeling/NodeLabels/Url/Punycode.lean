/-!
# Labels beyond ASCII

Writing a label of a domain name in ASCII letters, as RFC 3492 says: its ASCII characters come
first, and the others follow as differences in a number system whose digits grow in weight with the
values met before.
-/

namespace NodeLabels.Url.Punycode

def digit (n : Nat) : Char := if n < 26 then Char.ofNat (97 + n) else Char.ofNat (22 + n)

/-- The weight of the digit at place `k`, the first place being 36. -/
def threshold (k bias : Nat) : Nat := if k ≤ bias then 1 else if bias + 26 ≤ k then 26 else k - bias

/-- Halves a difference until it is small, counting the steps by 36. -/
def settle : (fuel delta k : Nat) → Nat
  | 0, delta, k => k + 36 * delta / (delta + 38)
  | fuel + 1, delta, k =>
    if delta > 455 then settle fuel (delta / 35) (k + 36) else k + 36 * delta / (delta + 38)

def adapt (delta count : Nat) (first : Bool) : Nat :=
  let delta := if first then delta / 700 else delta / 2
  settle 16 (delta + delta / count) 0

def number : (fuel q k bias : Nat) → List Char
  | 0, _, _, _ => []
  | fuel + 1, q, k, bias =>
    let t := threshold k bias
    if q < t then [digit q]
    else digit (t + (q - t) % (36 - t)) :: number fuel ((q - t) / (36 - t)) (k + 36) bias

structure State where
  delta : Nat := 0
  bias : Nat := 72
  handled : Nat
  first : Bool := true
  out : List Char := []

/-- Writes the places of the character `m` in the label. -/
def writePlaces (m : Nat) (label : List Nat) (s : State) : State :=
  label.foldl (fun s c =>
    if c < m then { s with delta := s.delta + 1 }
    else if c = m then
      { delta := 0, bias := adapt s.delta (s.handled + 1) s.first, handled := s.handled + 1
        first := false, out := s.out ++ number 32 s.delta 36 s.bias }
    else s) s

/-- Writes the characters from `n` on, in the order of their values. -/
def writeFrom (label : List Nat) : (fuel n : Nat) → State → State
  | 0, _, s => s
  | fuel + 1, n, s =>
    match (label.filter (n ≤ ·)).min? with
    | none => s
    | some m =>
      let s := { s with delta := s.delta + (m - n) * (s.handled + 1) }
      let s := writePlaces m label s
      writeFrom label fuel (m + 1) { s with delta := s.delta + 1 }

def encode (cs : List Char) : List Char :=
  let basic := cs.filter (·.toNat < 128)
  let start : State := { handled := basic.length }
  let s := writeFrom (cs.map Char.toNat) (cs.length + 1) 128 start
  basic ++ (if basic = [] then [] else ['-']) ++ s.out

/-- A label in ASCII letters. -/
def label? (cs : List Char) : Option (List Char) :=
  if cs.all (·.toNat < 128) then
    if cs.take 4 = ['x', 'n', '-', '-'] ∧ cs.length = 4 then none else some cs
  else some (['x', 'n', '-', '-'] ++ encode cs)

example : encode "bücher".toList = "bcher-kva".toList := by decide

end NodeLabels.Url.Punycode
