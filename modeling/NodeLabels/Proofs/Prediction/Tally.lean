import NodeLabels.Prediction.Pass
/-!
# Tallies

A tally counts every outcome once, under its kind and in the total.
-/

namespace NodeLabels.Prediction

inductive Kind
  | labeled | skipped | noStatus | unrecognized | patchFailed
deriving DecidableEq

def Outcome.kind : Outcome → Kind
  | .labeled _ => .labeled
  | .skipped _ => .skipped
  | .noStatus => .noStatus
  | .unrecognized _ => .unrecognized
  | .patchFailed => .patchFailed

def Summary.count (s : Summary) : Kind → Nat
  | .labeled => s.labeled
  | .skipped => s.skipped
  | .noStatus => s.noStatus
  | .unrecognized => s.unrecognized
  | .patchFailed => s.patchFailed

theorem Summary.count_add (s : Summary) (outcome : Outcome) (kind : Kind) :
    (s.add outcome).count kind = s.count kind + if outcome.kind = kind then 1 else 0 := by
  cases outcome <;> cases kind <;> rfl

theorem Summary.count_empty (kind : Kind) : ({} : Summary).count kind = 0 := by
  cases kind <;> rfl

/-- Every node is counted under one kind. -/
def Summary.Balanced (s : Summary) : Prop :=
  s.nodes = s.labeled + s.skipped + s.noStatus + s.unrecognized + s.patchFailed

theorem Summary.Balanced.add {s : Summary} (h : s.Balanced) (outcome : Outcome) :
    (s.add outcome).Balanced := by
  unfold Balanced at *
  cases outcome <;> simp only [Summary.add] <;> omega

/-- What goes up by one with the outcomes that meet `p` counts them. -/
theorem foldl_add (measure : Summary → Nat) (p : Outcome → Bool)
    (h : ∀ s outcome, measure (s.add outcome) = measure s + if p outcome then 1 else 0)
    (outcomes : List Outcome) (s : Summary) :
    measure (outcomes.foldl Summary.add s) = measure s + outcomes.countP p := by
  induction outcomes generalizing s with
  | nil => rfl
  | cons outcome outcomes ih =>
    rw [List.foldl_cons, ih, h, List.countP_cons]
    omega

theorem nodes_tally (outcomes : List Outcome) : (tally outcomes).nodes = outcomes.length := by
  have h := foldl_add Summary.nodes (fun _ => true) Summary.nodes_add outcomes {}
  rwa [List.countP_true, Nat.zero_add] at h

theorem count_tally (outcomes : List Outcome) (kind : Kind) :
    (tally outcomes).count kind = outcomes.countP (·.kind = kind) := by
  have h := foldl_add (·.count kind) (·.kind = kind)
    (fun s outcome => by simp [Summary.count_add]) outcomes {}
  rwa [Summary.count_empty, Nat.zero_add] at h

theorem balanced_tally (outcomes : List Outcome) : (tally outcomes).Balanced :=
  List.foldlRecOn outcomes Summary.add (rfl : ({} : Summary).Balanced)
    fun _ h outcome _ => h.add outcome

end NodeLabels.Prediction
