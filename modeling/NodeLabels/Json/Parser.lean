import NodeLabels.Json.Basic
import NodeLabels.Text.Digits
/-!
# Reading JSON

`Json.ofChars?` reads a whole text: one document, with blanks around it. Each reader takes as much
of the text as it needs and returns the rest. `Json.ofBytes?` reads the body of a message, where a
string with bytes that are no text is stray like one with half of a surrogate pair.
-/

namespace NodeLabels.Json

def isBlank (c : Char) : Bool := c = ' ' || c = '\n' || c = '\t' || c = '\r'

def skipBlanks (cs : List Char) : List Char := cs.dropWhile isBlank

def unitOf? (a b c d : Char) : Option Nat := Text.number? 16 [a, b, c, d]

/-- A piece of a string: a character, or half of a surrogate pair. -/
inductive Piece
  | char (c : Char)
  | high (unit : Nat)
  | low (unit : Nat)

def Piece.ofUnit (n : Nat) : Piece :=
  if 0xD800 ≤ n ∧ n < 0xDC00 then .high n
  else if 0xDC00 ≤ n ∧ n < 0xE000 then .low n
  else .char (Char.ofNat n)

def simpleEscape? (c : Char) : Option Char :=
  if c = '"' then some '"'
  else if c = '\\' then some '\\'
  else if c = '/' then some '/'
  else if c = 'b' then some '\x08'
  else if c = 'f' then some '\x0c'
  else if c = 'n' then some '\n'
  else if c = 'r' then some '\r'
  else if c = 't' then some '\t'
  else none

/-- The pieces up to the closing quote, and what follows it. -/
def pieces? : List Char → Option (List Piece × List Char)
  | [] => none
  | '"' :: rest => some ([], rest)
  | '\\' :: 'u' :: a :: b :: c :: d :: rest => do
    let unit ← unitOf? a b c d
    let (ps, rest) ← pieces? rest
    return (.ofUnit unit :: ps, rest)
  | '\\' :: e :: rest => do
    let c ← simpleEscape? e
    let (ps, rest) ← pieces? rest
    return (.char c :: ps, rest)
  | c :: rest => do
    if c.toNat < 32 ∨ c = '\\' then none
    let (ps, rest) ← pieces? rest
    return (.char c :: ps, rest)

/-- The text that the pieces make, if every half has its other half beside it. -/
def joinPieces? : List Piece → Option (List Char)
  | [] => some []
  | .char c :: ps => (joinPieces? ps).map (c :: ·)
  | .high h :: .low l :: ps =>
    (joinPieces? ps).map (Char.ofNat (0x10000 + (h - 0xD800) * 0x400 + (l - 0xDC00)) :: ·)
  | _ => none

/-- A string after its opening quote. The text is missing if it is stray. -/
def string? (cs : List Char) : Option (Option String × List Char) := do
  let (ps, rest) ← pieces? cs
  return ((joinPieces? ps).map String.ofList, rest)

def digitsOf (cs : List Char) : List Char × List Char := cs.span Char.isDigit

/-- The digits after a point, if there is one. -/
def fraction? : List Char → Option (List Char × List Char)
  | '.' :: rest =>
    let (digits, rest) := digitsOf rest
    if digits = [] then none else some (digits, rest)
  | rest => some ([], rest)

/-- Whether a minus stands in front. A plus is dropped. -/
def signOf : List Char → Bool × List Char
  | '-' :: rest => (true, rest)
  | '+' :: rest => (false, rest)
  | rest => (false, rest)

/-- The exponent, if there is one. -/
def exponent? : List Char → Option (Option Int × List Char)
  | [] => some (none, [])
  | e :: rest =>
    if e = 'e' ∨ e = 'E' then
      let (minus, rest) := signOf rest
      let (digits, rest) := digitsOf rest
      if digits = [] then none
      else
        let n : Int := Text.decimal digits
        some (some (if minus then -n else n), rest)
    else some (none, e :: rest)

/-- A number without its sign. -/
def unsigned? (negative : Bool) (cs : List Char) : Option (Number × List Char) := do
  let (whole, rest) := digitsOf cs
  if whole = [] ∨ (whole.head? = some '0' ∧ whole.length > 1) then none
  let (fraction, rest) ← fraction? rest
  let (exponent, rest) ← exponent? rest
  return ({ negative, whole := Text.decimal whole, fraction, exponent }, rest)

def number? : List Char → Option (Number × List Char)
  | '-' :: rest => unsigned? true rest
  | cs => unsigned? false cs

def literal? (word : List Char) (j : Json) (cs : List Char) : Option (Json × List Char) :=
  if cs.take word.length = word then some (j, cs.drop word.length) else none

/-- An object with a key that is stray is stray itself. -/
def ofMembers (members : List (Option String × Json)) : Json :=
  match members.mapM fun m => m.1.map (·, m.2) with
  | some members => .object members
  | none => .stray

mutual

/-- One document with blanks in front. Each step uses up one unit of `fuel`. -/
def value? (fuel : Nat) (cs : List Char) : Option (Json × List Char) :=
  match fuel with
  | 0 => none
  | fuel + 1 =>
    match skipBlanks cs with
    | [] => none
    | '"' :: rest => do
      let (s, rest) ← string? rest
      return (match s with | some s => .string s | none => .stray, rest)
    | '[' :: rest =>
      match skipBlanks rest with
      | ']' :: rest => some (.array [], rest)
      | rest => do
        let (items, rest) ← items? fuel rest
        return (.array items, rest)
    | '\x7b' :: rest =>
      match skipBlanks rest with
      | '\x7d' :: rest => some (.object [], rest)
      | rest => do
        let (members, rest) ← members? fuel rest
        return (ofMembers members, rest)
    | 'n' :: rest => literal? ['u', 'l', 'l'] .null rest
    | 't' :: rest => literal? ['r', 'u', 'e'] (.bool true) rest
    | 'f' :: rest => literal? ['a', 'l', 's', 'e'] (.bool false) rest
    | rest => do
      let (n, rest) ← number? rest
      return (.number n, rest)

/-- At least one item, and the end of the array. -/
def items? (fuel : Nat) (cs : List Char) : Option (List Json × List Char) :=
  match fuel with
  | 0 => none
  | fuel + 1 => do
    let (item, rest) ← value? fuel cs
    match skipBlanks rest with
    | ']' :: rest => return ([item], rest)
    | ',' :: rest =>
      let (items, rest) ← items? fuel rest
      return (item :: items, rest)
    | _ => none

def members? (fuel : Nat) (cs : List Char) : Option (List (Option String × Json) × List Char) :=
  match fuel with
  | 0 => none
  | fuel + 1 => do
    let '"' :: rest := skipBlanks cs | none
    let (key, rest) ← string? rest
    let ':' :: rest := skipBlanks rest | none
    let (value, rest) ← value? fuel rest
    match skipBlanks rest with
    | '\x7d' :: rest => return ([(key, value)], rest)
    | ',' :: rest =>
      let (members, rest) ← members? fuel rest
      return ((key, value) :: members, rest)
    | _ => none

end

/-- The document that a text is. -/
def ofChars? (cs : List Char) : Option Json := do
  let (j, rest) ← value? (2 * cs.length + 1) cs
  if skipBlanks rest = [] then return j else none

/-- What is put for bytes that are no text: stray in a string, and no part of a document elsewhere.
The letter keeps a backslash in front from making an escape of it. -/
def brokenMark : List Char := ['x', '\\', 'u', 'd', 'c', '0', '0']

/-- The document in the body of a message. Its bytes need to be a text outside of strings only. -/
def ofBytes? (bytes : List UInt8) : Option Json := ofChars? (Text.decodeWith brokenMark bytes)

end NodeLabels.Json
