import NodeLabels.Label.Key
import NodeLabels.Label.Map
import NodeLabels.Text.Quoted
import NodeLabels.Text.Split
/-!
# Nodes

The parts of a Kubernetes node that the labelers read, and the instance behind a node.
-/

namespace NodeLabels

structure Node where
  name : String
  providerId : Option String := none
  labels : LabelMap := ∅
deriving DecidableEq

/-- The zone label, if it is there and not empty. -/
def Node.zone? (n : Node) : Option String :=
  (n.labels.find? Label.zone).filter (· ≠ "")

/-- Why a provider ID names no Compute Engine instance. -/
inductive ProviderFault
  | missing
  /-- The node is not backed by Compute Engine. -/
  | notGce (id : String)
  /-- Nothing follows the last slash. -/
  | malformed (id : String)
deriving DecidableEq, Repr

def ProviderFault.message : ProviderFault → String
  | .missing => "missing providerID"
  | .notGce id => s!"non-GCE providerID {Text.quote id}"
  | .malformed id => s!"malformed providerID {Text.quote id}"

/-- What is left of `cs` after `start`, if it begins so. -/
def dropStart? : (start cs : List Char) → Option (List Char)
  | [], cs => some cs
  | _ :: _, [] => none
  | s :: ss, c :: cs => if s = c then dropStart? ss cs else none

/-- The instance named by a provider ID `gce://project/zone/instance`: what follows its last
slash. -/
def instanceName (providerId : Option String) : Except ProviderFault String :=
  match providerId with
  | none => .error .missing
  | some id =>
    if id = "" then .error .missing
    else match dropStart? Label.gceProvider.toList id.toList with
      | none => .error (.notGce id)
      | some path =>
        match (Text.splitAt '/' path).getLast? with
        | some (c :: cs) => .ok (String.ofList (c :: cs))
        | _ => .error (.malformed id)

end NodeLabels
