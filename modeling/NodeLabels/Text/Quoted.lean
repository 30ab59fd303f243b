import NodeLabels.Text.Hidden
/-!
# Quoted text

`quote` writes a text between double quotes so that its extent and its content can be seen: the
quote, the backslash, tab, line feed, carriage return and NUL have short escapes, and a hidden
character is written by its code point in hexadecimal.
-/

namespace NodeLabels.Text

def escapeChar (c : Char) : List Char :=
  if c = '"' then ['\\', '"']
  else if c = '\\' then ['\\', '\\']
  else if c = '\n' then ['\\', 'n']
  else if c = '\r' then ['\\', 'r']
  else if c = '\t' then ['\\', 't']
  else if c.toNat = 0 then ['\\', '0']
  else if isHidden c then '\\' :: 'u' :: '\x7b' :: Nat.toDigits 16 c.toNat ++ ['\x7d']
  else [c]

def quoteChars (cs : List Char) : List Char := '"' :: cs.flatMap escapeChar ++ ['"']

def quote (s : String) : String := String.ofList (quoteChars s.toList)

end NodeLabels.Text
