import NodeLabels.Text.Utf8
/-!
# Addresses of requests

An address can be sent if it is not too long and each of its parts is made of characters that can
stand there. What follows a `#` is not sent, but it counts.
-/

namespace NodeLabels.Http.Uri

/-- The most bytes that an address can have. -/
def longest : Nat := 65534

/-- The characters of what stands before a path: scheme, host and port. -/
def isSiteChar (c : Char) : Bool :=
  let n := c.toNat
  n = 0x21 || n = 0x24 || (0x26 ≤ n && n ≤ 0x3B) || n = 0x3D || (0x40 ≤ n && n ≤ 0x5B) ||
    n = 0x5D || n = 0x5F || (0x61 ≤ n && n ≤ 0x7A) || n = 0x7E

def isPathChar (c : Char) : Bool :=
  let n := c.toNat
  n = 0x21 || n = 0x22 || (0x24 ≤ n && n ≤ 0x3B) || n = 0x3D || (0x40 ≤ n && n ≤ 0x5F) ||
    (0x61 ≤ n && n ≤ 0x7E)

def isQueryChar (c : Char) : Bool :=
  let n := c.toNat
  n = 0x21 || (0x24 ≤ n && n ≤ 0x3B) || n = 0x3D || (0x3F ≤ n && n ≤ 0x7E)

/-- What is sent of path, query and fragment. -/
def sentPart (resource : List Char) : List Char := resource.takeWhile (· ≠ '#')

/-- Whether the address can be sent: what stands before the path, and path, query and fragment. -/
def isSendable (site resource : List Char) : Bool :=
  let sent := sentPart resource
  (Text.encode (site ++ resource)).length ≤ longest && site.all isSiteChar &&
    (sent.takeWhile (· ≠ '?')).all isPathChar && (sent.dropWhile (· ≠ '?')).tail.all isQueryChar

end NodeLabels.Http.Uri
