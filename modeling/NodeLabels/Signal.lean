import NodeLabels.Event
import NodeLabels.Label.Key
import NodeLabels.Series
/-!
# Failure prediction

The prediction that a metric reports for a GPU node, and the label value that follows from it.
-/

namespace NodeLabels

inductive Signal
  | noDegradation
  | possibleDegradation
  | degradation
  /-- Any other value, kept as it came. -/
  | unrecognized (raw : String)
deriving DecidableEq, Repr

namespace Signal

def ofRaw (raw : String) : Signal :=
  if raw = "NO_DEGRADATION_PREDICTED" then .noDegradation
  else if raw = "POSSIBLE_DEGRADATION_PREDICTED" then .possibleDegradation
  else if raw = "DEGRADATION_PREDICTED" then .degradation
  else .unrecognized raw

def text : Signal → String
  | .noDegradation => "NO_DEGRADATION_PREDICTED"
  | .possibleDegradation => "POSSIBLE_DEGRADATION_PREDICTED"
  | .degradation => "DEGRADATION_PREDICTED"
  | .unrecognized raw => raw

/-- The value of the recommendation label, for the signals that are written. -/
def labelValue? : Signal → Option String
  | .noDegradation | .possibleDegradation => some "True"
  | .degradation => some "False"
  | .unrecognized _ => none

theorem text_ofRaw (raw : String) : (ofRaw raw).text = raw := by
  unfold ofRaw
  repeat' split
  all_goals simp_all [text]

end Signal

/-- The prediction that a series carries, if it is not empty. -/
def Series.prediction? (s : Series) : Option String :=
  (s.label? Label.predictionValue).filter (· ≠ "")

/-- The signal of the first series that carries a prediction. -/
def firstPrediction (series : List Series) : Option Signal :=
  (series.findSome? Series.prediction?).map Signal.ofRaw

/-- One event for each series that is passed over, with its place in the list. -/
def passedOver (series : List Series) : List Event :=
  ((series.takeWhile fun s => s.prediction?.isNone).zipIdx).map fun p =>
    { level := .debug, reporter := .signal, message := "Series has no prediction value label"
      fields := [("series", .count p.2)] }

end NodeLabels
