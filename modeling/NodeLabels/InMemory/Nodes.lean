import NodeLabels.Fault
import NodeLabels.Node
/-!
# Nodes in memory

A node API that lists the same nodes whatever the selector, and records the selectors that it was
asked for and the patches that it accepted.
-/

namespace NodeLabels.InMemory

structure Nodes where
  nodes : List Node := []
  /-- Whether listing fails. -/
  refusesList : Bool := false
  /-- The nodes whose patches fail. -/
  refusedPatches : List String := []
  selectors : List String := []
  patches : List (String × LabelMap) := []
deriving DecidableEq

namespace Nodes

def list (n : Nodes) (selector : String) : Except Failure (List Node) × Nodes :=
  let answer :=
    if n.refusesList then .error (.ofText "Failed to list nodes: connection refused")
    else .ok n.nodes
  (answer, { n with selectors := n.selectors ++ [selector] })

def patch (n : Nodes) (node : String) (labels : LabelMap) : Except Failure Unit × Nodes :=
  if node ∈ n.refusedPatches then (.error (.ofText s!"Failed to patch node: {node}"), n)
  else (.ok (), { n with patches := n.patches ++ [(node, labels)] })

end Nodes

end NodeLabels.InMemory
