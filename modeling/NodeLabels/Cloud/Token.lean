import NodeLabels.Cloud.Metadata
/-!
# Access tokens

Requests to the cloud services carry a token, either one that was handed to the program or a new one
from the metadata server for every request.
-/

namespace NodeLabels.Cloud

inductive TokenSource
  | fixed (token : String)
  | metadata (server : Metadata)
deriving DecidableEq, Repr

namespace TokenSource

/-- The environment variable that may hold a token. -/
def environmentName : String := "GOOGLE_OAUTH_ACCESS_TOKEN"

/-- A token from the environment, unless it is blank. -/
def ofEnvironment (value : Option String) (server : Metadata) : TokenSource :=
  match value with
  | some token => if Text.isAllBlank token then .metadata server else .fixed (Text.trim token)
  | none => .metadata server

/-- What is reported about the choice. -/
def events : TokenSource → List Event
  | .fixed _ =>
    [{ level := .debug, reporter := .token, message := "Using access token from environment" }]
  | .metadata _ => []

def token : TokenSource → Dialogue Http.port (Except SourceFault String)
  | .fixed token => return .ok token
  | .metadata server => do
    match ← server.accessToken with
    | .ok token => return .ok token
    | .error fault => return .error (.auth fault.message)

end TokenSource

end NodeLabels.Cloud
