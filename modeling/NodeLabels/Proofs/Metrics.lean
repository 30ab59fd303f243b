import NodeLabels.Metrics
/-!
# Counts

Counts that are kept in the order of their keys have one entry for each key, so counting an outcome
moves the count of that outcome and no other.
-/

namespace NodeLabels

open NodeLabels.Topology (Outcome)

theorem key_lt_of_mem_countUp {key low : String} {counts : List (String × Nat)}
    (hkey : low < key) (h : ∀ c ∈ counts, low < c.1) : ∀ c ∈ countUp key counts, low < c.1 := by
  induction counts with
  | nil => simpa [countUp] using hkey
  | cons c counts ih =>
    obtain ⟨hc, hcounts⟩ := List.forall_mem_cons.1 h
    rw [countUp]
    split
    · exact List.forall_mem_cons.2 ⟨hkey, h⟩
    · split
      · exact List.forall_mem_cons.2 ⟨hc, hcounts⟩
      · exact List.forall_mem_cons.2 ⟨hc, ih hcounts⟩

theorem ordered_countUp (key : String) {counts : List (String × Nat)}
    (h : counts.Pairwise (fun c d => c.1 < d.1)) :
    (countUp key counts).Pairwise (fun c d => c.1 < d.1) := by
  induction counts with
  | nil => simp [countUp]
  | cons c counts ih =>
    obtain ⟨hc, hcounts⟩ := List.pairwise_cons.1 h
    rw [countUp]
    split
    · next hlt =>
      refine List.pairwise_cons.2 ⟨List.forall_mem_cons.2 ⟨hlt, fun d hd => ?_⟩, h⟩
      exact String.lt_trans hlt (hc d hd)
    · next hlt =>
      split
      · exact List.pairwise_cons.2 ⟨hc, hcounts⟩
      · next hne =>
        have hkey : c.1 < key := LabelMap.lt_of_not_lt_of_ne hlt hne
        exact List.pairwise_cons.2 ⟨key_lt_of_mem_countUp hkey hc, ih hcounts⟩

theorem lookup_eq_none_of_key_lt {key : String} {counts : List (String × Nat)}
    (h : ∀ c ∈ counts, key < c.1) : counts.lookup key = none := by
  refine List.lookup_eq_none_iff.2 fun c hc => ?_
  have hne : key ≠ c.1 := fun heq => String.lt_irrefl key (heq ▸ h c hc : key < key)
  simpa using hne

theorem lookup_countUp_self (key : String) {counts : List (String × Nat)}
    (h : counts.Pairwise (fun c d => c.1 < d.1)) :
    (countUp key counts).lookup key = some ((counts.lookup key).getD 0 + 1) := by
  induction counts with
  | nil => simp [countUp, lookup_entry_cons]
  | cons c counts ih =>
    obtain ⟨hc, hcounts⟩ := List.pairwise_cons.1 h
    rw [countUp]
    split
    · next hlt =>
      have habsent : (c :: counts).lookup key = none :=
        lookup_eq_none_of_key_lt
          (List.forall_mem_cons.2 ⟨hlt, fun d hd => String.lt_trans hlt (hc d hd)⟩)
      rw [habsent, lookup_entry_cons, if_pos rfl]
      rfl
    · split
      · next heq =>
        rw [lookup_entry_cons, lookup_entry_cons, if_pos heq, if_pos heq]
        rfl
      · next hne => rw [lookup_entry_cons, lookup_entry_cons, if_neg hne, if_neg hne, ih hcounts]

@[simp] theorem Topology.Outcome.text_inj {o o' : Outcome} : o.text = o'.text ↔ o = o' := by
  cases o <;> cases o' <;> decide

namespace Metrics

/-- The counts are in the order of their keys. -/
def Ordered (m : Metrics) : Prop := m.cycles.Pairwise (fun c d => c.1 < d.1)

theorem Ordered.fresh : ({} : Metrics).Ordered := .nil

theorem Ordered.count {m : Metrics} (h : m.Ordered) (o : Outcome) : (m.count o).Ordered :=
  ordered_countUp o.text h

theorem Ordered.stamp {m : Metrics} (h : m.Ordered) (secs : Int) : (m.stamp secs).Ordered := h

@[simp] theorem counted_stamp (m : Metrics) (secs : Int) (key : String) :
    (m.stamp secs).counted key = m.counted key := rfl

theorem counted_count {m : Metrics} (h : m.Ordered) (o : Outcome) (key : String) :
    (m.count o).counted key = m.counted key + if key = o.text then 1 else 0 := by
  unfold counted count countText
  split
  · next heq => rw [heq, lookup_countUp_self o.text h]; rfl
  · next hne => rw [lookup_countUp _ _ _ hne]; rfl

/-- How many cycles were counted under one of the outcomes. -/
def total (m : Metrics) : Nat :=
  m.counted Outcome.labeled.text + m.counted Outcome.unavailable.text +
    m.counted Outcome.malformed.text + m.counted Outcome.patchFailed.text

theorem total_count {m : Metrics} (h : m.Ordered) (o : Outcome) :
    (m.count o).total = m.total + 1 := by
  simp only [total, counted_count h]
  cases o <;> simp [Outcome.text] <;> omega

end Metrics

end NodeLabels
