import NodeLabels.Text.Utf8
import NodeLabels.Text.Digits
/-!
# Percent-encoding

A character that cannot stand in a part of a URL is written as its bytes in hexadecimal, each after
a percent sign. Which characters those are differs from part to part.
-/

namespace NodeLabels.Url

/-- The digit for a value below 16, in upper case. -/
def upperHexDigit (n : Nat) : Char := if n < 10 then Char.ofNat (48 + n) else Char.ofNat (55 + n)

def encodeByte (b : UInt8) : List Char :=
  ['%', upperHexDigit (b.toNat / 16), upperHexDigit (b.toNat % 16)]

def isControl (c : Char) : Bool := c.toNat < 0x20 || 0x7E < c.toNat

def inFragmentSet (c : Char) : Bool := isControl c || [' ', '"', '<', '>', '\x60'].contains c

def inQuerySet (special : Bool) (c : Char) : Bool :=
  isControl c || [' ', '"', '#', '<', '>'].contains c || (special && c = '\'')

def inPathSet (c : Char) : Bool := inFragmentSet c || ['#', '?', '\x7b', '\x7d'].contains c

def inUserSet (c : Char) : Bool :=
  inPathSet c || ['/', ':', ';', '=', '@', '[', '\\', ']', '^', '|'].contains c

/-- Encodes the characters of a set. -/
def encodeSet (set : Char → Bool) (cs : List Char) : List Char :=
  cs.flatMap fun c => if set c then (Text.encodeChar c).flatMap encodeByte else [c]

/-- The bytes of a text, with its escapes resolved. A percent sign that begins no escape stands for
itself. -/
def decodeBytes : List Char → List UInt8
  | [] => []
  | '%' :: a :: b :: rest =>
    match Text.digit? 16 a, Text.digit? 16 b with
    | some m, some n => UInt8.ofNat (16 * m + n) :: decodeBytes rest
    | _, _ => UInt8.ofNat '%'.toNat :: decodeBytes (a :: b :: rest)
  | c :: rest => Text.encodeChar c ++ decodeBytes rest

def decode (cs : List Char) : List Char := Text.decodeLossy (decodeBytes cs)

end NodeLabels.Url
