import NodeLabels.Text.Split
import NodeLabels.Url.Percent
/-!
# Form-encoded queries

A query as a list of names and values. Letters, digits and the characters `*-._` stand for
themselves, a space is written as a plus sign, and everything else is percent-encoded.
-/

namespace NodeLabels.Url.Form

def isSafe (c : Char) : Bool :=
  (c.isAlphanum && c.toNat < 128) || c = '*' || c = '-' || c = '.' || c = '_'

def encodeChar (c : Char) : List Char :=
  if isSafe c then [c] else if c = ' ' then ['+'] else (Text.encodeChar c).flatMap encodeByte

def encodeText (s : String) : List Char := s.toList.flatMap encodeChar

def encodePair (p : String × String) : List Char := encodeText p.1 ++ '=' :: encodeText p.2

/-- Adds pairs to a query that may be there already. -/
def append (query : List Char) (pairs : List (String × String)) : List Char :=
  pairs.foldl (fun q p => (if q = [] then [] else q ++ ['&']) ++ encodePair p) query

def decodeText (cs : List Char) : String :=
  String.ofList (Url.decode (cs.map fun c => if c = '+' then ' ' else c))

def decodePair (cs : List Char) : String × String :=
  (decodeText (cs.takeWhile (· ≠ '=')), decodeText (cs.dropWhile (· ≠ '=')).tail)

/-- The names and values of a query. -/
def decode (query : List Char) : List (String × String) :=
  ((Text.splitAt '&' query).filter (· ≠ [])).map decodePair

end NodeLabels.Url.Form
