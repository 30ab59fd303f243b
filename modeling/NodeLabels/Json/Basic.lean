import NodeLabels.Text.Utf8
/-!
# JSON documents

Documents keep the members of an object in order, and numbers as they were written, so no digit is
lost. A document that can be skipped but not read, because some string in it is no text or has half
of a surrogate pair, is kept as `stray`.
-/

namespace NodeLabels

/-- A number as it was written, except for zeros in front of the exponent. -/
structure Json.Number where
  negative : Bool := false
  whole : Nat
  /-- The digits after the point, if there is one. -/
  fraction : List Char := []
  exponent : Option Int := none
deriving DecidableEq, Repr

inductive Json
  | null
  | bool (b : Bool)
  | number (n : Json.Number)
  | string (s : String)
  | stray
  | array (items : List Json)
  | object (members : List (String × Json))

namespace Json

def ofNat (n : Nat) : Json := .number { whole := n }

def ofInt (n : Int) : Json := .number { negative := n < 0, whole := n.natAbs }

def ofOption {α : Type} (f : α → Json) : Option α → Json
  | some a => f a
  | none => .null

namespace Number

/-- The number, if it has neither point nor exponent. -/
def toInt? (n : Number) : Option Int :=
  if n.fraction = [] ∧ n.exponent = none ∧ ¬ (n.negative ∧ n.whole = 0) then
    some (if n.negative then -n.whole else n.whole)
  else none

def toNat? (n : Number) : Option Nat :=
  if n.fraction = [] ∧ n.exponent = none ∧ ¬ n.negative then some n.whole else none

def chars (n : Number) : List Char :=
  (if n.negative then ['-'] else []) ++ Nat.toDigits 10 n.whole ++
    (if n.fraction = [] then [] else '.' :: n.fraction) ++
    match n.exponent with
    | none => []
    | some e => 'e' :: (if e < 0 then ['-'] else []) ++ Nat.toDigits 10 e.natAbs

end Number

def escapeChar (c : Char) : List Char :=
  if c = '"' then ['\\', '"']
  else if c = '\\' then ['\\', '\\']
  else if c = '\n' then ['\\', 'n']
  else if c = '\r' then ['\\', 'r']
  else if c = '\t' then ['\\', 't']
  else if c = '\x08' then ['\\', 'b']
  else if c = '\x0c' then ['\\', 'f']
  else if c.toNat < 16 then ['\\', 'u', '0', '0', '0', Nat.digitChar c.toNat]
  else if c.toNat < 32 then ['\\', 'u', '0', '0', '1', Nat.digitChar (c.toNat - 16)]
  else [c]

def stringChars (s : String) : List Char := '"' :: s.toList.flatMap escapeChar ++ ['"']

mutual

/-- The document without blanks. -/
def chars : Json → List Char
  | .null => ['n', 'u', 'l', 'l']
  | .bool true => ['t', 'r', 'u', 'e']
  | .bool false => ['f', 'a', 'l', 's', 'e']
  | .number n => n.chars
  | .string s => stringChars s
  | .stray => ['"', '\\', 'u', 'd', '8', '0', '0', '"']
  | .array items => '[' :: itemsChars items
  | .object members => '\x7b' :: membersChars members

/-- The items of an array and its end. -/
def itemsChars : List Json → List Char
  | [] => [']']
  | [item] => item.chars ++ [']']
  | item :: next :: items => item.chars ++ ',' :: itemsChars (next :: items)

def membersChars : List (String × Json) → List Char
  | [] => ['\x7d']
  | [(key, value)] => stringChars key ++ ':' :: value.chars ++ ['\x7d']
  | (key, value) :: next :: members =>
    stringChars key ++ ':' :: value.chars ++ ',' :: membersChars (next :: members)

end

def text (j : Json) : String := String.ofList j.chars

/-- The document as the body of a message. -/
def bytes (j : Json) : List UInt8 := Text.encode j.chars

/-- The value of the first member with the key. -/
def member? (key : String) : Json → Option Json
  | .object members => members.lookup key
  | _ => none

mutual

/-- How deep arrays and objects are nested. -/
def depth : Json → Nat
  | .array items => itemsDepth items + 1
  | .object members => membersDepth members + 1
  | _ => 0

def itemsDepth : List Json → Nat
  | [] => 0
  | item :: items => max item.depth (itemsDepth items)

def membersDepth : List (String × Json) → Nat
  | [] => 0
  | (_, value) :: members => max value.depth (membersDepth members)

end

end Json

end NodeLabels
