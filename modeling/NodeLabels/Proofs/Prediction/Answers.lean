import NodeLabels.Prediction.Pass
import NodeLabels.Proofs.Calendar.Instant
/-!
# Worlds that answer by function

Replies that follow from the call alone. The time is the exception: a clock moves on whatever is
asked, so nothing is said about its readings but that the calendar reaches back a window from them.
-/

namespace NodeLabels.Prediction

open Calendar (Instant)

/-- The window that ends at a reading of the clock has a start in the calendar. -/
def InCalendar {σ : Type} (settings : Settings) (reply : (c : port.Call) → σ → port.Reply c × σ) :
    Prop :=
  ∀ s, ∃ window, Window.endingAt? (reply Call.now s).1 settings.window = some window

/-- What is answered to lookups, queries and patches. -/
structure Answers where
  instanceId (project zone name : String) : Except SourceFault (Option String)
  series (project id : String) : Except SourceFault (List Series)
  patch (node : String) (labels : LabelMap) : Except Failure Unit

/-- The world answers so in every state. -/
structure Answers.Given {σ : Type} (a : Answers)
    (reply : (c : port.Call) → σ → port.Reply c × σ) : Prop where
  instanceId (project zone name : String) (s : σ) :
    (reply (Call.instanceId project zone name) s).1 = a.instanceId project zone name
  series (project id : String) (window : Window) (s : σ) :
    (reply (Call.series project id window) s).1 = a.series project id
  patch (node : String) (labels : LabelMap) (s : σ) :
    (reply (Call.patch node labels) s).1 = a.patch node labels

/-- A world with these answers and this listing, in which the clock moves on with every call. -/
def Answers.world (a : Answers) (listing : Except Failure (List Node)) (clock : Nat → Instant)
    (c : port.Call) (n : Nat) : port.Reply c × Nat :=
  (match c with
    | .listNodes _ => listing
    | .instanceId project zone name => a.instanceId project zone name
    | .now => clock n
    | .series project id _ => a.series project id
    | .patch node labels => a.patch node labels, n + 1)

theorem Answers.world_given (a : Answers) (listing : Except Failure (List Node))
    (clock : Nat → Instant) : a.Given (a.world listing clock) :=
  ⟨fun _ _ _ _ => rfl, fun _ _ _ _ => rfl, fun _ _ _ => rfl⟩

/-! ## A small world -/

def plainSettings : Settings := { project := "p" }

/-- A clock that shows two times in turn. -/
def swinging (n : Nat) : Instant := if n % 2 = 0 then .early 900 else .early 960

theorem inCalendar_swinging (a : Answers) (listing : Except Failure (List Node)) :
    InCalendar plainSettings (a.world listing swinging) := by
  intro n
  change ∃ window, Window.endingAt? (swinging n) plainSettings.window = some window
  unfold swinging
  split
  · exact ⟨{ start := .early 0, stop := .early 900 }, by decide +kernel⟩
  · exact ⟨{ start := .early 60, stop := .early 960 }, by decide +kernel⟩

/-- A node with the given instance. -/
def gpuNode (name instanceName : String) : Node :=
  { name, providerId := some ("gce://p/z/" ++ instanceName)
    labels := .ofList [(Label.zone, "z")] }

def valueSeries (text : String) : Series :=
  { metric := "", labels := .ofList [(Label.predictionValue, text)] }

/-- Instances have their names for IDs, but `lost` has none. The ID tells the prediction, and the
node `locked` cannot be patched. -/
def plainAnswers : Answers where
  instanceId _ _ name := .ok (if name = "lost" then none else some name)
  series _ id := .ok [valueSeries "", valueSeries id]
  patch node _ := if node = "locked" then .error (.ofText "refused") else .ok ()

end NodeLabels.Prediction
