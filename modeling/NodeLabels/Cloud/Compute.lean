import NodeLabels.Cloud.Token
import NodeLabels.Json.Double
/-!
# The compute service

Looking up the ID of an instance. The service gives it as a text of digits or as a number; an answer
without one of these is no fault.
-/

namespace NodeLabels.Cloud

structure Compute where
  base : String
  tokens : TokenSource
deriving DecidableEq, Repr

namespace Compute

def endpoint : String := "compute/instances.get"

def url (c : Compute) (project zone name : String) : String :=
  Url.join c.base s!"compute/v1/projects/{project}/zones/{zone}/instances/{name}"

/-- Documents may be nested 127 deep, the one around the ID among them. -/
def idDepth : Nat := 126

def idOf : Option Json → Option String
  | some (.string s) => if s = "" then none else some s
  | some (.number n) => n.text?
  | _ => none

def readId : Json.Reader (Option String) := fun j => do
  let [id] ← Json.Reader.fields ["id"] j | none
  match id with
  | some id => return idOf (some (← Json.Reader.any idDepth id))
  | none => return none

def lookupEvent (project zone name : String) : Event :=
  { level := .debug, reporter := .compute, message := "Looking up instance"
    fields := [("project", .text project), ("zone", .text zone), ("instance", .text name)] }

def instanceId (c : Compute) (project zone name : String) :
    Dialogue Http.port (Except SourceFault (Option String)) := do
  .tell (lookupEvent project zone name)
  match ← c.tokens.token with
  | .error fault => return .error fault
  | .ok token =>
    return (← fetchText endpoint (c.url project zone name) [bearer token]) >>=
      jsonBody readId endpoint

end Compute

end NodeLabels.Cloud
