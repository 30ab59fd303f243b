import NodeLabels.Url.Form
import NodeLabels.Url.Host
/-!
# URLs

The parts of a URL, the text that they make, and the reading of a text as the URL standard has it:
white space at the ends, tabs and line breaks are dropped, dot segments are resolved, and what
cannot stand in a part is percent-encoded.
-/

namespace NodeLabels

structure Url.Authority where
  username : List Char := []
  password : List Char := []
  host : Url.Host
  port : Option Nat := none
deriving DecidableEq, Repr

inductive Url.Path
  /-- Segments, each after a slash. -/
  | segments (parts : List (List Char))
  /-- A text without structure. -/
  | solid (text : List Char)
deriving DecidableEq, Repr

structure Url where
  scheme : List Char
  authority : Option Url.Authority := none
  path : Url.Path
  query : Option (List Char) := none
  fragment : Option (List Char) := none
deriving DecidableEq, Repr

namespace Url

def specialSchemes : List (String × Option Nat) :=
  [("http", some 80), ("https", some 443), ("ws", some 80), ("wss", some 443), ("ftp", some 21),
    ("file", none)]

def isSpecial (scheme : List Char) : Bool := specialSchemes.any fun s => s.1.toList = scheme

def defaultPort? (scheme : List Char) : Option Nat :=
  (specialSchemes.find? fun s => s.1.toList = scheme).bind (·.2)

/-! ## Writing -/

def Path.chars : Path → List Char
  | .segments parts => parts.flatMap ('/' :: ·)
  | .solid text => text

def portChars : Option Nat → List Char
  | some port => ':' :: Nat.toDigits 10 port
  | none => []

def Authority.chars (a : Authority) : List Char :=
  let user :=
    if a.username = [] ∧ a.password = [] then []
    else a.username ++ (if a.password = [] then [] else ':' :: a.password) ++ ['@']
  user ++ a.host.chars ++ portChars a.port

def optionalPart (mark : Char) : Option (List Char) → List Char
  | some cs => mark :: cs
  | none => []

/-- The path and the query, as they are sent to a server. -/
def target (u : Url) : String := String.ofList (u.path.chars ++ optionalPart '?' u.query)

/-- The path, the query and the fragment. -/
def resource (u : Url) : List Char :=
  u.path.chars ++ optionalPart '?' u.query ++ optionalPart '#' u.fragment

def chars (u : Url) : List Char :=
  u.scheme ++ ':' :: (match u.authority with | some a => '/' :: '/' :: a.chars | none => []) ++
    u.resource

def text (u : Url) : String := String.ofList u.chars

/-- Adds names and values to the query. -/
def addQuery (u : Url) (pairs : List (String × String)) : Url :=
  { u with query := some (Form.append (u.query.getD []) pairs) }

/-- The URL without user and password. -/
def withoutUser (u : Url) : Url :=
  { u with authority := u.authority.map fun a => { a with username := [], password := [] } }

/-! ## Reading -/

/-- Drops blanks and controls at the ends, and tabs and line breaks everywhere. -/
def clean (cs : List Char) : List Char :=
  let isEdge := fun c : Char => c.toNat ≤ 0x20
  let cs := ((cs.dropWhile isEdge).reverse.dropWhile isEdge).reverse
  cs.filter fun c => c ≠ '\t' && c ≠ '\n' && c ≠ '\r'

def isSchemeChar (c : Char) : Bool :=
  (c.isAlphanum && c.toNat < 128) || c = '+' || c = '-' || c = '.'

/-- The scheme in lower case, and what follows its colon. -/
def scheme? (cs : List Char) : Option (List Char × List Char) :=
  let scheme := cs.takeWhile isSchemeChar
  match scheme, cs.drop scheme.length with
  | first :: _, ':' :: rest =>
    if first.isAlpha then some (scheme.map Char.toLower, rest) else none
  | _, _ => none

def isSlash (special : Bool) (c : Char) : Bool := c = '/' || (special && c = '\\')

/-- Whether the character ends the authority. -/
def endsAuthority (special : Bool) (c : Char) : Bool := isSlash special c || c = '?' || c = '#'

/-- Cuts at the last `@`. -/
def cutUser (cs : List Char) : Option (List Char × List Char) :=
  if cs.contains '@' then
    let host := (cs.reverse.takeWhile (· ≠ '@')).reverse
    some (cs.take (cs.length - host.length - 1), host)
  else none

/-- How many characters the host takes, the colon before a port not being among them. -/
def hostLength : (inBrackets : Bool) → List Char → Nat
  | _, [] => 0
  | inBrackets, c :: cs =>
    if c = ':' ∧ ! inBrackets then 0
    else hostLength (if c = '[' then true else if c = ']' then false else inBrackets) cs + 1

def port? (scheme : List Char) (cs : List Char) : Except Fault (Option Nat) :=
  if ! cs.all Char.isDigit then .error .invalidPort
  else
    let port := Text.decimal cs
    if port ≥ 65536 then .error .invalidPort
    else if cs = [] ∨ defaultPort? scheme = some port then .ok none
    else .ok (some port)

def authority? (scheme : List Char) (cs : List Char) : Except Fault Authority := do
  let (user, rest) := match cutUser cs with
    | some (user, rest) => (user, rest)
    | none => ([], cs)
  let name := user.takeWhile (· ≠ ':')
  let length := hostLength false rest
  let host := rest.take length
  if host = [] ∧ isSpecial scheme then throw .emptyHost
  let host ← if isSpecial scheme then Host.special host else Host.general host
  let port ← port? scheme (rest.drop (length + 1))
  return {
    username := encodeSet inUserSet name
    password := encodeSet inUserSet (user.drop (name.length + 1))
    host, port }

def isSingleDot (segment : List Char) : Bool :=
  segment = ['.'] || segment.map Char.toLower = ['%', '2', 'e']

def isDoubleDot (segment : List Char) : Bool :=
  ["..", "%2e%2e", ".%2e", "%2e."].any fun d => d.toList = segment.map Char.toLower

/-- Resolves dot segments. A dot segment at the end leaves an empty one. -/
def resolve : (done : List (List Char)) → List (List Char) → List (List Char)
  | done, [] => done.reverse
  | done, segment :: rest =>
    let last := rest.isEmpty
    if isDoubleDot segment then resolve (if last then [] :: done.tail else done.tail) rest
    else if isSingleDot segment then resolve (if last then [] :: done else done) rest
    else resolve (segment :: done) rest

/-- The segments of a path, given without its first slash. -/
def segments (special : Bool) (cs : List Char) : List (List Char) :=
  let cs := if special then cs.map fun c => if c = '\\' then '/' else c else cs
  resolve [] ((Text.splitAt '/' cs).map (encodeSet inPathSet))

/-- Splits off what follows the first such mark. -/
def cutAt (mark : Char) (cs : List Char) : List Char × Option (List Char) :=
  let front := cs.takeWhile (· ≠ mark)
  (front, match cs.drop front.length with
    | [] => none
    | _ :: rest => some rest)

/-- Reads a URL that stands for itself. -/
def parse (input : String) : Except Fault Url := do
  let some (scheme, rest) := scheme? (clean input.toList) | throw .noScheme
  let special := isSpecial scheme
  let (rest, fragment) := cutAt '#' rest
  let (rest, query) := cutAt '?' rest
  let fragment := fragment.map (encodeSet inFragmentSet)
  let query := query.map (encodeSet (inQuerySet special))
  if special ∧ scheme ≠ "file".toList then
    let rest := rest.dropWhile (isSlash true)
    let authority := rest.takeWhile (! endsAuthority true ·)
    let authority' ← authority? scheme authority
    let path := (rest.drop authority.length).tail
    return {
      scheme, authority := some authority', path := .segments (segments true path), query
      fragment }
  else match rest with
    | '/' :: '/' :: rest =>
      let authority := rest.takeWhile (! endsAuthority special ·)
      let authority' ← if authority = [] then pure { host := .name [] : Authority }
        else authority? scheme authority
      let path := match rest.drop authority.length with
        | [] => if special then [[]] else []
        | _ :: path => segments special path
      return { scheme, authority := some authority', path := .segments path, query, fragment }
    | '/' :: path =>
      return { scheme, path := .segments (segments special path), query, fragment }
    | text => return { scheme, path := .solid (encodeSet isControl text), query, fragment }

/-- Joins a base and a path with one slash between them. -/
def join (base path : String) : String :=
  String.ofList ((base.toList.reverse.dropWhile (· = '/')).reverse ++
    '/' :: path.toList.dropWhile (· = '/'))

end Url

end NodeLabels
