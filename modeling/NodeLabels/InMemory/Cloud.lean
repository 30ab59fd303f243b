import NodeLabels.Fault
import NodeLabels.Series
import NodeLabels.Window
/-!
# Cloud services in memory

Instances by name and their series by ID. An unknown instance is answered with status 404, and what
is marked as failing with status 503. Of two entries for one key the later counts.
-/

namespace NodeLabels.InMemory

structure Instances where
  ids : List (String × Option String) := []
  failing : List String := []
  /-- Answers that come before all others. -/
  faults : List (String × SourceFault) := []
  lookups : List (String × String × String) := []
deriving DecidableEq

/-- The last entry with the key. -/
def latest? {α : Type} (key : String) (entries : List (String × α)) : Option α :=
  entries.reverse.lookup key

def Instances.instanceId (s : Instances) (project zone name : String) :
    Except SourceFault (Option String) × Instances :=
  let answer :=
    match latest? name s.faults with
    | some fault => .error fault
    | none =>
      if name ∈ s.failing then .error (.status "compute/instances" 503)
      else match latest? name s.ids with
        | some id => .ok id
        | none => .error (.status "compute/instances" 404)
  (answer, { s with lookups := s.lookups ++ [(project, zone, name)] })

structure SeriesStore where
  series : List (String × List Series) := []
  failing : List String := []
  queries : List (String × String × Window) := []
deriving DecidableEq

def SeriesStore.query (s : SeriesStore) (project id : String) (window : Window) :
    Except SourceFault (List Series) × SeriesStore :=
  let answer :=
    if id ∈ s.failing then .error (.status "monitoring/timeSeries" 503)
    else .ok ((latest? id s.series).getD [])
  (answer, { s with queries := s.queries ++ [(project, id, window)] })

end NodeLabels.InMemory
