import NodeLabels.Cluster.Object
import NodeLabels.Fault
import NodeLabels.Http
import NodeLabels.Http.Uri
import NodeLabels.Url.Form
/-!
# The cluster API

Listing nodes and patching their labels through the API server of a cluster. In a dry run patches
are reported instead of sent.
-/

namespace NodeLabels.Cluster

/-- The name under which the server records who changed labels. -/
def fieldManager : String := "node-labeler"

/-- A way to reach an API server. -/
structure Client where
  server : String
deriving DecidableEq, Repr

namespace Client

def connectedEvent : Event :=
  { level := .info, reporter := .cluster, message := "Connected to Kubernetes API server" }

/-- The client for a server, if one is known. -/
def connect (server : Option String) : Except Failure Client :=
  match server with
  | some server => .ok { server }
  | none =>
    .error { contexts := ["Failed to create Kubernetes client"], root := .cluster .notConfigured }

/-! ## Requests -/

def request? (c : Client) (method : Http.Method) (path : String) (query : String × String)
    (headers : List (String × String)) (body : Option Json) : Option Http.Request :=
  let resource := path.toList ++ '?' :: '&' :: Url.Form.encodePair query
  if Http.Uri.isSendable [] resource then
    some {
      method, origin := c.server, target := String.ofList (Http.Uri.sentPart resource)
      headers, body }
  else none

def listRequest? (c : Client) (selector : String) : Option Http.Request :=
  c.request? .get "/api/v1/nodes" ("labelSelector", selector) [] none

def patchRequest? (c : Client) (node : String) (labels : LabelMap) : Option Http.Request :=
  c.request? .patch s!"/api/v1/nodes/{node}" ("fieldManager", fieldManager)
    [("content-type", "application/merge-patch+json")] (some (labelPatch labels))

/-! ## Replies -/

def readRefusal : Json.Reader Refusal := fun j => do
  let [status, message, reason, code] ←
    Json.Reader.fields ["status", "message", "reason", "code"] j | none
  return {
    status := ← Json.Reader.required Json.Reader.string status
    message := ← Json.Reader.orElse Json.Reader.string "" message
    reason := ← Json.Reader.orElse Json.Reader.string "" reason
    code := ← Json.Reader.required (Json.Reader.natBelow 65536) code }

/-- What the server says in a refusal, or what can be said about it. -/
def refusal (status : Nat) (text : List Char) : Refusal :=
  match Json.ofChars? text >>= readRefusal with
  | some r => r
  | none =>
    { status := Http.statusText status, code := status, reason := "Failed to parse error data"
      message := Text.quote (String.ofList text) }

def readReply {α : Type} (read : Json.Reader α) : Http.Reply → Except Fault α
  | .lost reasons => .error (.transport reasons)
  | .answer _ _ false => .error (.transport ["error reading a body from connection"])
  | .answer status body true =>
    match Text.decode? body with
    | none => .error .notUtf8
    | some text =>
      if Http.isRefusal status then .error (.api (refusal status text))
      else match Json.ofChars? text >>= read with
        | some a => .ok a
        | none => .error .misshapen

/-- Sends a request, if it can be built, and reads the reply. -/
def exchange {α : Type} (read : Json.Reader α) (request : Option Http.Request) :
    Dialogue Http.port (Except Fault α) :=
  match request with
  | none => return .error .unusablePath
  | some request => do return readReply read (← Http.send request)

def event (level : Level) (message : String) (fields : List (String × Event.Value)) : Event :=
  { level, reporter := .cluster, message, fields }

def listNodes (c : Client) (selector : String) :
    Dialogue Http.port (Except Failure (List Node)) := do
  match ← exchange readNodes (c.listRequest? selector) with
  | .error fault =>
    return .error { contexts := [s!"Failed to list nodes with selector: {selector}"]
                    root := .cluster fault }
  | .ok nodes =>
    .tell (event .debug "Listed nodes"
      [("selector", .text selector), ("count", .count nodes.length)])
    return .ok nodes

/-- Label maps as they are shown in events. -/
def shownLabels (labels : LabelMap) : String :=
  "\x7b" ++ ", ".intercalate (labels.entries.map fun e => s!"{Text.quote e.1}: {Text.quote e.2}") ++
    "\x7d"

def patchLabels (c : Client) (node : String) (labels : LabelMap) :
    Dialogue Http.port (Except Failure Unit) := do
  match ← exchange readNode (c.patchRequest? node labels) with
  | .error fault =>
    return .error { contexts := [s!"Failed to patch labels on node: {node}"]
                    root := .cluster fault }
  | .ok _ =>
    .tell (event .debug "Node labels patched"
      [("node", .text node), ("labels", .text (shownLabels labels))])
    return .ok ()

end Client

/-- The client as the two jobs use it. -/
structure Operator where
  client : Client
  dryRun : Bool := false
deriving DecidableEq, Repr

namespace Operator

def dryRunEvent (node : String) (labels : LabelMap) : Event :=
  { level := .info, reporter := .nodes, message := "[DRY-RUN] Would patch node labels"
    fields := [("node", .text node), ("labels", .text (Client.shownLabels labels))] }

def listNodes (o : Operator) (selector : String) :
    Dialogue Http.port (Except Failure (List Node)) :=
  o.client.listNodes selector

def patchLabels (o : Operator) (node : String) (labels : LabelMap) :
    Dialogue Http.port (Except Failure Unit) := do
  if o.dryRun then
    .tell (dryRunEvent node labels)
    return .ok ()
  else o.client.patchLabels node labels

end Operator

end NodeLabels.Cluster
