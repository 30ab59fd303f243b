import NodeLabels.Proofs.Prediction.First
/-!
# The first value wins

A list of series comes to the signal of the first value in it, which is kept as it came. Series
without a value have no say in it, wherever they stand, and neither has anything behind the first
value (`firstValue_wins`).
-/

namespace NodeLabels

/-- The series has the prediction label with a text in it. -/
def Series.HasValue (x : Series) : Prop :=
  ∃ raw, x.label? Label.predictionValue = some raw ∧ raw ≠ ""

variable {x : Series} {xs ys before after after' : List Series} {signal : Signal} {raw : String}

theorem Series.hasValue_iff : x.HasValue ↔ x.prediction?.isSome = true := by
  simp only [HasValue, Option.isSome_iff_exists, prediction?_eq_some]

instance : DecidablePred Series.HasValue := fun _ => decidable_of_iff _ Series.hasValue_iff.symm

theorem Series.not_hasValue_iff : ¬ x.HasValue ↔ x.prediction? = none := by
  simp [hasValue_iff]

theorem firstPrediction_eq_some_iff : firstPrediction xs = some signal ↔
    ∃ before x after raw, xs = before ++ x :: after ∧ (∀ y ∈ before, ¬ y.HasValue) ∧
      x.label? Label.predictionValue = some raw ∧ raw ≠ "" ∧ signal = Signal.ofRaw raw := by
  simp only [firstPrediction, Option.map_eq_some_iff, List.findSome?_eq_some_iff,
    Series.prediction?_eq_some, Series.not_hasValue_iff]
  constructor
  · rintro ⟨raw, ⟨before, x, after, hxs, ⟨hx, hne⟩, hbefore⟩, rfl⟩
    exact ⟨before, x, after, raw, hxs, hbefore, hx, hne, rfl⟩
  · rintro ⟨before, x, after, raw, hxs, hbefore, hx, hne, rfl⟩
    exact ⟨raw, ⟨before, x, after, hxs, ⟨hx, hne⟩, hbefore⟩, rfl⟩

/-- Only the series with a value are looked at. -/
theorem firstPrediction_filter (xs : List Series) :
    firstPrediction (xs.filter fun x => x.HasValue) = firstPrediction xs := by
  induction xs with
  | nil => rfl
  | cons x xs ih =>
    have hcons (ys : List Series) :
        firstPrediction (x :: ys) = (firstPrediction [x]).or (firstPrediction ys) :=
      firstPrediction_append [x] ys
    by_cases hx : x.HasValue
    · rw [List.filter_cons_of_pos (by simpa using hx), hcons, ih, ← hcons]
    · have hnone : firstPrediction [x] = none := by
        simpa [firstPrediction_eq_none] using Series.not_hasValue_iff.1 hx
      rw [List.filter_cons_of_neg (by simpa using hx), ih, hcons, hnone, Option.none_or]

theorem firstPrediction_congr
    (h : xs.filter (fun x => x.HasValue) = ys.filter fun x => x.HasValue) :
    firstPrediction xs = firstPrediction ys := by
  rw [← firstPrediction_filter xs, h, firstPrediction_filter]

/-- What comes behind a value is not looked at. -/
theorem firstPrediction_behind (hx : x.HasValue) :
    firstPrediction (before ++ x :: after) = firstPrediction (before ++ [x]) := by
  have hsome : (firstPrediction (before ++ [x])).isSome = true := by
    rw [Option.isSome_iff_ne_none, Ne, firstPrediction_eq_none]
    exact fun h => Series.not_hasValue_iff.2 (h x (by simp)) hx
  obtain ⟨signal, hsignal⟩ := Option.isSome_iff_exists.1 hsome
  rw [List.append_cons, firstPrediction_append, hsignal, Option.some_or]

theorem isSome_labelValue?_iff : (Signal.ofRaw raw).labelValue?.isSome = true ↔
    raw = "NO_DEGRADATION_PREDICTED" ∨ raw = "POSSIBLE_DEGRADATION_PREDICTED" ∨
      raw = "DEGRADATION_PREDICTED" := by
  simp only [Option.isSome_iff_exists, ← recommends_iff]
  constructor
  · rintro ⟨value, h⟩
    cases h <;> simp
  · rintro (rfl | rfl | rfl)
    · exact ⟨_, .noDegradation⟩
    · exact ⟨_, .possibleDegradation⟩
    · exact ⟨_, .degradation⟩

/-- There is no prediction exactly if no series has a value, and otherwise it is the signal of the
first value. Of two lists in a row the second counts only if the first has no prediction. Lists that
differ in series without a value alone, or only behind a value, have the same prediction. A signal
is written as the very text that it was read from, and has a label value for three texts alone. -/
theorem firstValue_wins :
    (∀ xs, firstPrediction xs = none ↔ ∀ x ∈ xs, ¬ x.HasValue) ∧
    (∀ xs signal, firstPrediction xs = some signal ↔
      ∃ before x after raw, xs = before ++ x :: after ∧ (∀ y ∈ before, ¬ y.HasValue) ∧
        x.label? Label.predictionValue = some raw ∧ raw ≠ "" ∧ signal = Signal.ofRaw raw) ∧
    (∀ xs ys, firstPrediction (xs ++ ys) =
      if (firstPrediction xs).isSome then firstPrediction xs else firstPrediction ys) ∧
    (∀ xs ys : List Series, xs.filter (fun x => x.HasValue) = ys.filter (fun x => x.HasValue) →
      firstPrediction xs = firstPrediction ys) ∧
    (∀ before x after after', x.HasValue →
      firstPrediction (before ++ x :: after) = firstPrediction (before ++ x :: after')) ∧
    ∀ raw, (Signal.ofRaw raw).text = raw ∧
      ((Signal.ofRaw raw).labelValue?.isSome = true ↔
        raw = "NO_DEGRADATION_PREDICTED" ∨ raw = "POSSIBLE_DEGRADATION_PREDICTED" ∨
          raw = "DEGRADATION_PREDICTED") := by
  refine ⟨fun xs => ?_, fun _ _ => firstPrediction_eq_some_iff, fun xs ys => ?_,
    fun _ _ => firstPrediction_congr, fun before x after after' hx => ?_,
    fun raw => ⟨Signal.text_ofRaw raw, isSome_labelValue?_iff⟩⟩
  · simp only [firstPrediction_eq_none, Series.not_hasValue_iff]
  · rw [firstPrediction_append]
    cases firstPrediction xs <;> rfl
  · exact (firstPrediction_behind hx).trans (firstPrediction_behind hx).symm

/-- A series with this value. -/
def valued (raw : String) : Series :=
  { metric := Label.predictionMetric, labels := LabelMap.ofList [(Label.predictionValue, raw)] }

/-- Neither an empty value nor a missing one ends the search, a value that is nearly a known one
does, and it is not labelled. -/
theorem firstValue_wins_nearMiss : (valued "DEGRADATION_PREDICTED ").HasValue ∧
    firstPrediction [valued "", { metric := "m" }, valued "DEGRADATION_PREDICTED ", valued "",
      valued "DEGRADATION_PREDICTED"] = some (.unrecognized "DEGRADATION_PREDICTED ") ∧
    (Signal.ofRaw "DEGRADATION_PREDICTED ").text = "DEGRADATION_PREDICTED " ∧
    (Signal.ofRaw "DEGRADATION_PREDICTED ").labelValue?.isSome = false := by
  obtain ⟨-, hsome, -, hsilent, hbehind, hraw⟩ := firstValue_wins
  have hvalue : (valued "DEGRADATION_PREDICTED ").HasValue := by decide
  obtain ⟨htext, hlabel⟩ := hraw "DEGRADATION_PREDICTED "
  refine ⟨hvalue, ?_, htext, ?_⟩
  · have hfirst : firstPrediction [valued "DEGRADATION_PREDICTED "] =
        some (.unrecognized "DEGRADATION_PREDICTED ") :=
      (hsome _ _).2 ⟨[], _, [], _, rfl, by simp, rfl, by decide, rfl⟩
    rw [← hfirst, hsilent _ [valued "DEGRADATION_PREDICTED ", valued "DEGRADATION_PREDICTED"]
      (by decide)]
    exact hbehind [] _ _ [] hvalue
  · rw [Bool.eq_false_iff, Ne, hlabel]
    decide

end NodeLabels
