import NodeLabels.Fault
/-!
# Metadata in memory

A metadata service that knows at most the name and the placement of its machine and counts the
requests that it gets. A value that it does not know is answered with status 404.
-/

namespace NodeLabels.InMemory

structure Metadata where
  name : Option String := none
  physicalHost : Option String := none
  requests : Nat := 0
deriving DecidableEq, Repr

namespace Metadata

def answer (endpoint : String) : Option String → Except SourceFault String
  | some value => .ok value
  | none => .error (.status endpoint 404)

def readName (m : Metadata) : Except SourceFault String × Metadata :=
  (answer "instance/name" m.name, { m with requests := m.requests + 1 })

def readPhysicalHost (m : Metadata) : Except SourceFault String × Metadata :=
  (answer "instance/attributes/physical_host" m.physicalHost, { m with requests := m.requests + 1 })

end Metadata

end NodeLabels.InMemory
