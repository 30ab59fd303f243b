import NodeLabels.Yaml.Value
/-!
# Cluster configuration files

A file that names clusters and contexts, of which one is the current one. All that is taken from it
is the address of the API server.
-/

namespace NodeLabels.Cluster

/-- The value of a key. -/
def member? (key : String) (n : Yaml.Node) : Option Yaml.Node := do (← n.entries?).lookup key

/-- The entry with this name in a list of named entries. -/
def named? (name : String) : Yaml.Node → Option Yaml.Node
  | .sequence items =>
    items.find? fun item => (member? "name" item).bind Yaml.Node.text? = some name
  | _ => none

/-- The server of the cluster that belongs to the current context. -/
def serverIn? (text : String) : Option String := do
  let n ← (← Yaml.Node.read? text)
  let current ← (← member? "current-context" n).text?
  let context ← named? current (← member? "contexts" n) >>= member? "context"
  let name ← (← member? "cluster" context).text?
  let cluster ← named? name (← member? "clusters" n) >>= member? "cluster"
  (← member? "server" cluster).text?

end NodeLabels.Cluster
