import NodeLabels.Cluster.Fault
/-!
# Faults

A `SourceFault` is a failed reading from a cloud service, a `Failure` a failed call to the node API
with the contexts it passed through, and a `LabelFault` the reason why one unit of labeling work
was given up.
-/

namespace NodeLabels

inductive SourceFault
  /-- The request could not be sent, or the connection failed. -/
  | request (endpoint message : String)
  /-- The service answered with a status that is no success. -/
  | status (endpoint : String) (code : Nat)
  /-- The body of the answer could not be read. -/
  | decode (endpoint message : String)
  /-- No credentials could be had. -/
  | auth (message : String)
deriving DecidableEq, Repr

namespace SourceFault

def message : SourceFault → String
  | .request endpoint message => s!"Request to {endpoint} failed: {message}"
  | .status endpoint code => s!"{endpoint} returned HTTP {code}"
  | .decode endpoint message => s!"Failed to decode response from {endpoint}: {message}"
  | .auth message => s!"Failed to obtain credentials: {message}"

/-- The HTTP status that the fault carries. -/
def code? : SourceFault → Option Nat
  | .status _ code => some code
  | _ => none

end SourceFault

/-- What lies at the bottom of a failure. -/
inductive Failure.Root
  | text (message : String)
  | cluster (fault : Cluster.Fault)
deriving DecidableEq, Repr

/-- A failure with its contexts, the outermost first. -/
structure Failure where
  contexts : List String := []
  root : Failure.Root
deriving DecidableEq, Repr

namespace Failure

def ofText (message : String) : Failure := { root := .text message }

def addContext (f : Failure) (context : String) : Failure :=
  { f with contexts := context :: f.contexts }

/-- The texts from the outermost context down to the last cause. -/
def chain (f : Failure) : List String :=
  f.contexts ++ match f.root with
    | .text message => [message]
    | .cluster fault => fault.chain

/-- The outermost text. -/
def message (f : Failure) : String := f.chain.headD ""

/-- All texts in one line. -/
def fullText (f : Failure) : String := ": ".intercalate f.chain

end Failure

inductive LabelFault
  /-- A fact could not be fetched. -/
  | unavailable (what : String) (source : SourceFault)
  /-- A fact was fetched and does not have the expected shape. -/
  | malformed (what value : String)
  /-- The patch was rejected or could not be sent. -/
  | patch (node : String) (source : Failure)
deriving DecidableEq, Repr

namespace LabelFault

def message : LabelFault → String
  | .unavailable what source => s!"{what} unavailable: {source.message}"
  | .malformed what value => s!"Malformed {what}: {Text.quote value}"
  | .patch node source => s!"Failed to patch node {node}: {source.fullText}"

/-- The text of the fault, followed by those of its causes. -/
def chain (f : LabelFault) : List String :=
  f.message :: match f with
    | .unavailable _ source => [source.message]
    | .malformed _ _ => []
    | .patch _ source => source.chain

end LabelFault

end NodeLabels
