import NodeLabels.Fault
import NodeLabels.Label.Key
import NodeLabels.Label.Map
import NodeLabels.Text.Blank
import NodeLabels.Text.Split
/-!
# Physical placement

The metadata server gives the place of a virtual machine as `/cluster/rack/host`.
-/

namespace NodeLabels

structure Placement where
  cluster : String
  rack : String
  host : String
deriving DecidableEq, Repr

namespace Placement

/-- The three parts of a text that, blanks around it apart, is `/cluster/rack/host` with no part
empty. -/
def ofText? (raw : String) : Option Placement :=
  match Text.splitAt '/' (Text.trimChars raw.toList) with
  | [[], cluster, rack, host] =>
    if cluster.isEmpty || rack.isEmpty || host.isEmpty then none
    else some ⟨String.ofList cluster, String.ofList rack, String.ofList host⟩
  | _ => none

def parse (raw : String) : Except LabelFault Placement :=
  match ofText? raw with
  | some placement => .ok placement
  | none => .error (.malformed "physical host" raw)

def text (p : Placement) : String := s!"/{p.cluster}/{p.rack}/{p.host}"

def labels (p : Placement) : LabelMap :=
  .ofList [(Label.cluster, p.cluster), (Label.rack, p.rack), (Label.host, p.host)]

end Placement

end NodeLabels
