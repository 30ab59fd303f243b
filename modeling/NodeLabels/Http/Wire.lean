import NodeLabels.Http
import NodeLabels.Text.Blank
import NodeLabels.Text.Digits
import NodeLabels.Text.Split
import NodeLabels.Text.Utf8
/-!
# HTTP on the wire

Requests as the bytes that are sent over a connection, and the answer in the bytes that come back
until the connection is closed. A body ends where its length says, or where its chunks do, and what
ends earlier is cut short.
-/

namespace NodeLabels.Http

/-- The host and port of an origin. -/
def hostOf (origin : String) : String :=
  String.ofList (((origin.toList.dropWhile (· ≠ '/')).drop 2).takeWhile (· ≠ '/'))

def Request.bytes (r : Request) : List UInt8 :=
  let body := match r.body with
    | some body => Text.encode body.chars
    | none => []
  let length := if r.body.isSome then [s!"content-length: {body.length}"] else []
  let head := s!"{r.method.text} {r.target} HTTP/1.1" :: s!"host: {hostOf r.origin}" ::
    "accept: */*" :: "connection: close" :: r.headers.map (fun h => s!"{h.1}: {h.2}") ++ length
  Text.encode (String.join (head.map (· ++ "\r\n")) ++ "\r\n").toList ++ body

/-! ## Answers -/

/-- The bytes before the first empty line and those after it. -/
def cutHead? : List UInt8 → Option (List UInt8 × List UInt8)
  | 13 :: 10 :: 13 :: 10 :: rest => some ([], rest)
  | b :: rest => (cutHead? rest).map fun (head, body) => (b :: head, body)
  | [] => none

/-- The fields of a head, their names in small letters. -/
def fieldsOf (lines : List (List Char)) : List (String × List Char) :=
  lines.map fun line =>
    let name := line.takeWhile (· ≠ ':')
    (String.ofList (name.map Char.toLower), Text.trimChars (line.drop (name.length + 1)))

/-- The size in front of a chunk. What follows the digits is skipped. -/
def chunkSize? (line : List UInt8) : Option Nat :=
  let digits := (Text.decodeLossy line).takeWhile fun c => (Text.digit? 16 c).isSome
  if digits = [] then none else Text.number? 16 digits

/-- Puts the chunks of a body together, and tells whether the last one is there. -/
def joinChunks : (fuel : Nat) → List UInt8 → List UInt8 × Bool
  | 0, _ => ([], false)
  | fuel + 1, bs =>
    let line := bs.takeWhile (· ≠ 10)
    let rest := bs.drop (line.length + 1)
    match chunkSize? line with
    | none => ([], false)
    | some 0 => ([], true)
    | some size =>
      if rest.length < size then (rest, false)
      else
        let (more, complete) := joinChunks fuel (rest.drop (size + 2))
        (rest.take size ++ more, complete)

/-- The body that the fields of the head announce. -/
def bodyOf (fields : List (String × List Char)) (bs : List UInt8) : List UInt8 × Bool :=
  if (fields.lookup "transfer-encoding").any (·.map Char.toLower = "chunked".toList) then
    joinChunks (bs.length + 1) bs
  else match (fields.lookup "content-length").bind Text.decimal? with
    | some length => (bs.take length, length ≤ bs.length)
    | none => (bs, true)

/-- The answer in all the bytes that came over a connection. -/
def Reply.ofBytes (bs : List UInt8) : Reply :=
  match cutHead? bs with
  | none => .dropped
  | some (head, rest) =>
    match Text.splitAt '\n' ((Text.decodeLossy head).filter (· ≠ '\r')) with
    | [] => .dropped
    | first :: lines =>
      match (Text.splitAt ' ' first)[1]?.bind Text.decimal? with
      | none => .dropped
      | some status =>
        let (body, complete) := bodyOf (fieldsOf lines) rest
        .answer status body complete

end NodeLabels.Http
