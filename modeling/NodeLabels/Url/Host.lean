import NodeLabels.Text.Split
import NodeLabels.Url.Percent
import NodeLabels.Url.Punycode
/-!
# Hosts

The host of a URL: a domain name, an address of version 4, which may be written in several ways, an
address of version 6, or for schemes without rules of their own a name taken as it is.
-/

namespace NodeLabels.Url

/-- Why a text is no URL. -/
inductive Fault
  | noScheme | emptyHost | invalidPort | invalidDomain | invalidIpv4 | invalidIpv6
  | invalidHostCharacter
deriving DecidableEq, Repr

def Fault.message : Fault → String
  | .noScheme => "relative URL without a base"
  | .emptyHost => "empty host"
  | .invalidPort => "invalid port number"
  | .invalidDomain => "invalid international domain name"
  | .invalidIpv4 => "invalid IPv4 address"
  | .invalidIpv6 => "invalid IPv6 address"
  | .invalidHostCharacter => "invalid domain character"

inductive Host
  | name (text : List Char)
  | ipv4 (address : Nat)
  | ipv6 (pieces : List Nat)
deriving DecidableEq, Repr

namespace Host

/-! ## Version 4 -/

/-- A part of an address: decimal, octal after a zero, hexadecimal after `0x`. -/
def part? (cs : List Char) : Option Nat :=
  match cs with
  | [] => none
  | '0' :: 'x' :: rest | '0' :: 'X' :: rest => Text.number? 16 rest
  | '0' :: c :: rest => Text.number? 8 (c :: rest)
  | cs => Text.number? 10 cs

/-- The labels of a name, without the empty one after a dot at its end. -/
def labels (cs : List Char) : List (List Char) :=
  let parts := Text.splitAt '.' cs
  if parts.length > 1 ∧ parts.getLast? = some [] then parts.dropLast else parts

/-- A name whose last label is a number can only be an address. -/
def endsInNumber (cs : List Char) : Bool :=
  match (labels cs).getLast? with
  | some last => (! last.isEmpty && last.all Char.isDigit) ||
      match last with
      | '0' :: 'x' :: rest | '0' :: 'X' :: rest => (Text.number? 16 rest).isSome
      | _ => false
  | none => false

/-- The last part fills all that the others leave. -/
def ipv4? (cs : List Char) : Option Nat := do
  let parts ← (labels cs).mapM part?
  let last ← parts.getLast?
  let front := parts.dropLast
  if parts.length > 4 ∨ front.any (· > 255) ∨ last ≥ Nat.pow 256 (5 - parts.length) then none
  return front.zipIdx.foldl (fun n p => n + p.1 * Nat.pow 256 (3 - p.2)) last

def ipv4Text (n : Nat) : List Char :=
  Text.joinWith '.' ([n / 16777216, n / 65536 % 256, n / 256 % 256, n % 256].map (Nat.toDigits 10))

/-! ## Version 6 -/

def hexPiece? (cs : List Char) : Option Nat :=
  if cs = [] ∨ cs.length > 4 then none else Text.number? 16 cs

def decimalByte? (cs : List Char) : Option Nat :=
  if cs = [] ∨ cs.length > 3 ∨ (cs.head? = some '0' ∧ cs.length > 1) ∨ ! cs.all Char.isDigit then
    none
  else (Text.number? 10 cs).filter (· < 256)

/-- Pieces separated by colons; the last may be an address of version 4. -/
def pieces? (cs : List Char) : Option (List Nat) :=
  if cs = [] then some []
  else
    let parts := Text.splitAt ':' cs
    let last := parts.getLast?.getD []
    if last.contains '.' then do
      let front ← parts.dropLast.mapM hexPiece?
      match ← (Text.splitAt '.' last).mapM decimalByte? with
      | [a, b, c, d] => return front ++ [256 * a + b, 256 * c + d]
      | _ => none
    else parts.mapM hexPiece?

/-- Cuts at the first double colon. -/
def cutDouble : List Char → Option (List Char × List Char)
  | ':' :: ':' :: rest => some ([], rest)
  | c :: rest => (cutDouble rest).map fun p => (c :: p.1, p.2)
  | [] => none

def ipv6? (cs : List Char) : Option (List Nat) :=
  match cutDouble cs with
  | none => (pieces? cs).filter (·.length = 8)
  | some (front, back) => do
    if front.contains '.' then none
    let front ← pieces? front
    let back ← pieces? back
    if front.length + back.length > 7 then none
    return front ++ List.replicate (8 - front.length - back.length) 0 ++ back

/-- The length of the run of zeros at the front. -/
def zeros (pieces : List Nat) : Nat := (pieces.takeWhile (· = 0)).length

/-- The first of the longest runs of at least two zeros: where it starts and how long it is. -/
def longestZeros (pieces : List Nat) : Option (Nat × Nat) :=
  let runs := (List.range pieces.length).map fun i => (i, zeros (pieces.drop i))
  let best := runs.foldl (fun b r => if b.2 < r.2 then r else b) (0, 0)
  if best.2 < 2 then none else some best

def ipv6Text (pieces : List Nat) : List Char :=
  let text := fun (ps : List Nat) => Text.joinWith ':' (ps.map (Nat.toDigits 16))
  match longestZeros pieces with
  | none => text pieces
  | some (start, length) =>
    text (pieces.take start) ++ [':', ':'] ++ text (pieces.drop (start + length))

/-! ## Names -/

/-- What cannot stand in a domain name. -/
def isForbidden (c : Char) : Bool :=
  c.toNat ≤ 0x20 || c.toNat = 0x7F ||
    ['#', '/', ':', '<', '>', '?', '@', '[', '\\', ']', '^', '|', '%', '\x60', '\x7b',
      '\x7d'].contains c

/-- A domain name in ASCII letters of lower case. Other letters are encoded label by label. -/
def domain? (cs : List Char) : Option (List Char) :=
  let cs := cs.map fun c => if ['。', '．', '｡'].contains c then '.' else c.toLower
  if cs.any isForbidden then none
  else do
    let labels ← (Text.splitAt '.' cs).mapM Punycode.label?
    return Text.joinWith '.' labels

/-- The host of a URL whose scheme has rules of its own. -/
def special (cs : List Char) : Except Fault Host :=
  match cs with
  | '[' :: rest =>
    if rest.getLast? = some ']' then
      match ipv6? rest.dropLast with
      | some pieces => .ok (.ipv6 pieces)
      | none => .error .invalidIpv6
    else .error .invalidIpv6
  | cs =>
    match domain? (decode cs) with
    | none => .error .invalidDomain
    | some [] => .error .emptyHost
    | some text =>
      if endsInNumber text then
        match ipv4? text with
        | some n => .ok (.ipv4 n)
        | none => .error .invalidIpv4
      else .ok (.name text)

/-- The host of any other URL. -/
def general (cs : List Char) : Except Fault Host :=
  match cs with
  | '[' :: _ => special cs
  | cs =>
    if cs.any fun c => isForbidden c && c ≠ '%' && ! isControl c then .error .invalidHostCharacter
    else if cs.any (·.toNat = 0) then .error .invalidHostCharacter
    else .ok (.name (encodeSet isControl cs))

def chars : Host → List Char
  | .name text => text
  | .ipv4 n => ipv4Text n
  | .ipv6 pieces => '[' :: ipv6Text pieces ++ [']']

end Host

end NodeLabels.Url
