import NodeLabels.Signal
/-!
# The first prediction

A series counts if it has the prediction label with a text in it, and the first one that counts
decides.
-/

namespace NodeLabels

theorem Series.prediction?_eq_some {s : Series} {raw : String} :
    s.prediction? = some raw ↔ s.label? Label.predictionValue = some raw ∧ raw ≠ "" := by
  simp [prediction?, Option.filter_eq_some_iff]

theorem firstPrediction_append (xs ys : List Series) :
    firstPrediction (xs ++ ys) = (firstPrediction xs).or (firstPrediction ys) := by
  rw [firstPrediction, List.findSome?_append, Option.map_or]
  rfl

theorem firstPrediction_eq_none {xs : List Series} :
    firstPrediction xs = none ↔ ∀ x ∈ xs, x.prediction? = none := by
  simp [firstPrediction]

/-- The first prediction that the series carry is `raw`. -/
def FirstValue (found : List Series) (raw : String) : Prop :=
  ∃ before x after, found = before ++ x :: after ∧ x.label? Label.predictionValue = some raw ∧
    raw ≠ "" ∧ ∀ y ∈ before, ∀ text, y.label? Label.predictionValue = some text → text = ""

theorem firstValue_iff {found : List Series} {raw : String} :
    FirstValue found raw ↔ found.findSome? Series.prediction? = some raw := by
  have hnone (x : Series) : x.prediction? = none ↔
      ∀ text, x.label? Label.predictionValue = some text → text = "" := by
    simp [Series.prediction?, Option.filter_eq_none_iff]
  simp only [FirstValue, List.findSome?_eq_some_iff, Series.prediction?_eq_some, hnone, and_assoc]

theorem FirstValue.iff_eq {found : List Series} {raw raw' : String} (h : FirstValue found raw) :
    FirstValue found raw' ↔ raw' = raw := by
  rw [firstValue_iff, firstValue_iff.1 h, Option.some.injEq, eq_comm]

/-- The recommendation that follows from a prediction. -/
inductive Recommends : (raw value : String) → Prop
  | noDegradation : Recommends "NO_DEGRADATION_PREDICTED" "True"
  | possibleDegradation : Recommends "POSSIBLE_DEGRADATION_PREDICTED" "True"
  | degradation : Recommends "DEGRADATION_PREDICTED" "False"

theorem recommends_iff {raw value : String} :
    Recommends raw value ↔ (Signal.ofRaw raw).labelValue? = some value := by
  constructor
  · rintro (_ | _ | _) <;> rfl
  · intro h
    unfold Signal.ofRaw at h
    split at h
    · next hraw => cases h; exact hraw ▸ .noDegradation
    · split at h
      · next hraw => cases h; exact hraw ▸ .possibleDegradation
      · split at h
        · next hraw => cases h; exact hraw ▸ .degradation
        · cases h

theorem Recommends.iff_eq {raw value value' : String} (h : Recommends raw value) :
    Recommends raw value' ↔ value' = value := by
  rw [recommends_iff, recommends_iff.1 h, Option.some.injEq, eq_comm]

end NodeLabels
