import NodeLabels.Json.Reader
/-!
# Shapes of API objects

What the API of a cluster allows a document to be. A field of a record may be missing or null, comes
any number of times, the last one counting, and fields that are not known are skipped.
-/

namespace NodeLabels.Cluster

inductive Shape
  | any
  | text
  | flag
  /-- A whole number of so many bits. -/
  | whole (bits : Nat)
  | time
  /-- A text that can only be one thing, and not null either. -/
  | word (s : String)
  | list (item : Shape)
  | map (value : Shape)
  | record (fields : List (String × Shape))

namespace Shape

def twoDigits (bound : Nat) : List Char → Option (Nat × List Char)
  | a :: b :: rest => ((Text.decimal? [a, b]).filter (· < bound)).map (·, rest)
  | _ => none

/-- How far the local time is from universal time. -/
def isOffset : List Char → Bool
  | ['Z'] | ['z'] => true
  | sign :: rest =>
    (sign = '+' || sign = '-') &&
      match twoDigits 24 rest with
      | some (_, ':' :: rest) => (twoDigits 60 rest).any (·.2 = [])
      | _ => false
  | [] => false

/-- A time of day with an offset. The second may be a leap second. -/
def isClock (cs : List Char) : Bool :=
  match twoDigits 24 cs with
  | some (_, ':' :: cs) =>
    match twoDigits 60 cs with
    | some (_, ':' :: cs) =>
      match twoDigits 61 cs with
      | some (_, '.' :: cs) => cs.head?.any Char.isDigit && isOffset (cs.dropWhile Char.isDigit)
      | some (_, cs) => isOffset cs
      | none => false
    | _ => false
  | _ => false

/-- The days of a month. -/
def monthLength (year month : Nat) : Nat :=
  if month = 2 then
    if year % 4 = 0 ∧ (year % 100 ≠ 0 ∨ year % 400 = 0) then 29 else 28
  else if month = 4 ∨ month = 6 ∨ month = 9 ∨ month = 11 then 30
  else 31

/-- A date and time in the form of RFC 3339. -/
def isTime (cs : List Char) : Bool :=
  let year := cs.take 4
  year.length = 4 && year.all Char.isDigit &&
    match cs.drop 4 with
    | '-' :: cs =>
      match twoDigits 13 cs with
      | some (month, '-' :: cs) =>
        match twoDigits 32 cs with
        | some (day, mark :: cs) =>
          1 ≤ month && 1 ≤ day && day ≤ monthLength (Text.decimal year) month &&
            (mark = 'T' || mark = 't' || mark = ' ') && isClock cs
        | _ => false
      | _ => false
    | _ => false

def isWhole (bits : Nat) (n : Json.Number) : Bool :=
  match n.toInt? with
  | some i => -(Nat.pow 2 (bits - 1) : Int) ≤ i && i < (Nat.pow 2 (bits - 1) : Int)
  | none => false

/-- How deep a document of any shape may be nested. -/
def maxDepth : Nat := 120

mutual

def fits : Shape → Json → Bool
  | .any, j => (Json.Reader.any maxDepth j).isSome
  | .text, .string _ => true
  | .flag, .bool _ => true
  | .whole bits, .number n => isWhole bits n
  | .time, .string s => isTime s.toList
  | .word w, .string s => s = w
  | .list item, .array items => itemsFit item items
  | .map value, .object members => valuesFit value members
  | .record fields, .object members => fieldsFit fields members
  | _, _ => false

def itemsFit (item : Shape) : List Json → Bool
  | [] => true
  | j :: js => fits item j && itemsFit item js

def valuesFit (value : Shape) : List (String × Json) → Bool
  | [] => true
  | (_, j) :: ms => fits value j && valuesFit value ms

def fieldsFit (fields : List (String × Shape)) : List (String × Json) → Bool
  | [] => true
  | (key, j) :: ms =>
    (match fields.lookup key, j with
      | none, _ => true
      | some (.word w), j => fits (.word w) j
      | some _, .null => true
      | some shape, j => fits shape j) && fieldsFit fields ms

end

end Shape

end NodeLabels.Cluster
