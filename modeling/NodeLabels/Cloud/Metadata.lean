import NodeLabels.Cloud.Request
import NodeLabels.Text.Blank
/-!
# The metadata server

What a machine learns about itself from the metadata server: its name, its placement, its project,
and an access token for the account it runs under.
-/

namespace NodeLabels.Cloud

/-- A metadata server at a base URL. -/
structure Metadata where
  base : String
deriving DecidableEq, Repr

namespace Metadata

def namePath : String := "instance/name"
def physicalHostPath : String := "instance/attributes/physical_host"
def projectPath : String := "project/project-id"
def tokenPath : String := "instance/service-accounts/default/token"

def url (m : Metadata) (path : String) : String := Url.join m.base s!"computeMetadata/v1/{path}"

/-- Every request has to name the kind of server that it expects. -/
def headers : List (String × String) := [("metadata-flavor", "Google")]

def get (m : Metadata) (path : String) : Dialogue Http.port (Except SourceFault String) := do
  .tell { level := .debug, reporter := .metadata, message := "Querying metadata server"
          fields := [("path", .text path)] }
  return (← fetchText path (m.url path) headers) >>= textBody path

def instanceName (m : Metadata) : Dialogue Http.port (Except SourceFault String) := m.get namePath

def physicalHost (m : Metadata) : Dialogue Http.port (Except SourceFault String) :=
  m.get physicalHostPath

/-- The project without blanks around it. It must not be empty. -/
def project (answer : String) : Except SourceFault String :=
  if Text.isAllBlank answer then .error (.decode projectPath "empty project ID")
  else .ok (Text.trim answer)

def projectId (m : Metadata) : Dialogue Http.port (Except SourceFault String) := do
  return (← m.get projectPath) >>= project

def readToken : Json.Reader String := fun j => do
  let [token] ← Json.Reader.fields ["access_token"] j | none
  Json.Reader.required Json.Reader.string token

def accessToken (m : Metadata) : Dialogue Http.port (Except SourceFault String) := do
  return (← fetchText tokenPath (m.url tokenPath) headers) >>= jsonBody readToken tokenPath

end Metadata

end NodeLabels.Cloud
