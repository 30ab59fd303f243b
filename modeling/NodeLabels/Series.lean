import NodeLabels.Label.Map
/-!
# Time series

A series of the monitoring service, of which only the metric and its labels matter here.
-/

namespace NodeLabels

structure Series where
  metric : String
  labels : LabelMap := ∅
deriving DecidableEq

def Series.label? (s : Series) (key : String) : Option String := s.labels.find? key

end NodeLabels
