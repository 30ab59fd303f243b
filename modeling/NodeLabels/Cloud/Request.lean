import NodeLabels.Fault
import NodeLabels.Http
import NodeLabels.Http.Uri
import NodeLabels.Json.Reader
import NodeLabels.Text.Base64
import NodeLabels.Url
/-!
# Requests to cloud services

Asking a cloud service for a text or a document. What goes wrong on the way is a fault of the
endpoint that was asked: before anything is sent, while it is sent, by the status, or in the body.
-/

namespace NodeLabels.Cloud

/-- A header may hold no control but the tab. -/
def isHeaderText (s : String) : Bool :=
  s.toList.all fun c => (0x20 ≤ c.toNat && c.toNat ≠ 0x7F) || c = '\t'

/-- The credentials that a URL carries, as a header. -/
def userHeaders (u : Url) : List (String × String) :=
  match u.authority with
  | some a =>
    if a.username = [] ∧ a.password = [] then []
    else
      let credentials :=
        Url.decodeBytes a.username ++ Text.encode [':'] ++ Url.decodeBytes a.password
      [("authorization", "Basic " ++ String.ofList (Text.base64 credentials))]
  | none => []

def hasHost (u : Url) : Bool :=
  match u.authority with
  | some a => ! a.host.chars.isEmpty
  | none => false

/-- The scheme, the host and the port. -/
def site (u : Url) : List Char :=
  u.scheme ++ ':' :: '/' :: '/' :: (u.withoutUser.authority.map (·.chars)).getD []

def origin (u : Url) : String := String.ofList (site u)

def refused (endpoint : String) (u : Url) : SourceFault :=
  .request endpoint s!"builder error for url ({u.text})"

/-- The request for a URL, or the fault that keeps it from being sent. -/
def prepare (endpoint : String) (u : Url) (headers : List (String × String)) :
    Except SourceFault Http.Request :=
  if ! hasHost u then .error (refused endpoint u)
  else if ! headers.all (isHeaderText ·.2) then .error (.request endpoint "builder error")
  else if u.scheme ≠ "http".toList ∧ u.scheme ≠ "https".toList then
    .error (refused endpoint u.withoutUser)
  else if ! Http.Uri.isSendable (site u) u.resource then .error (refused endpoint u.withoutUser)
  else .ok { origin := origin u, target := u.target, headers := userHeaders u ++ headers }

/-- Gets the body of a successful answer, and whether it is whole. -/
def fetch (endpoint : String) (u : Url) (headers : List (String × String)) :
    Dialogue Http.port (Except SourceFault (List UInt8 × Bool)) := do
  match prepare endpoint u headers with
  | .error fault => return .error fault
  | .ok request =>
    match ← Http.send request with
    | .lost _ =>
      return .error (.request endpoint s!"error sending request for url ({u.withoutUser.text})")
    | .answer status body complete =>
      if Http.isSuccess status then return .ok (body, complete)
      else return .error (.status endpoint status)

def undecodable (endpoint : String) : SourceFault :=
  .decode endpoint "error decoding response body"

/-- Gets a URL that is given as text. -/
def fetchText (endpoint url : String) (headers : List (String × String)) :
    Dialogue Http.port (Except SourceFault (List UInt8 × Bool)) :=
  match Url.parse url with
  | .error _ => return .error (.request endpoint "builder error")
  | .ok u => fetch endpoint u headers

/-- The text in a body. -/
def textBody (endpoint : String) (body : List UInt8 × Bool) : Except SourceFault String :=
  if body.2 then .ok (String.ofList (Text.decodeLossy body.1)) else .error (undecodable endpoint)

/-- The document in a body, read by `read`. -/
def jsonBody {α : Type} (read : Json.Reader α) (endpoint : String) (body : List UInt8 × Bool) :
    Except SourceFault α :=
  match if body.2 then Json.ofBytes? body.1 >>= read else none with
  | some a => .ok a
  | none => .error (undecodable endpoint)

def bearer (token : String) : String × String := ("authorization", s!"Bearer {token}")

end NodeLabels.Cloud
