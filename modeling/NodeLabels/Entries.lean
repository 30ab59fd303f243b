/-!
# Entries

Lists of keys with values, in which the first entry with a key counts.
-/

namespace NodeLabels

theorem lookup_entry_cons {κ α : Type} [BEq κ] [LawfulBEq κ] [DecidableEq κ] (k : κ) (e : κ × α)
    (es : List (κ × α)) : (e :: es).lookup k = if k = e.1 then some e.2 else es.lookup k := by
  obtain ⟨d, a⟩ := e
  rw [List.lookup_cons]
  by_cases h : k = d
  · rw [beq_iff_eq.2 h, if_pos h]
  · rw [beq_eq_false_iff_ne.2 h, if_neg h]

/-- Where a key comes at most once, its place among the entries plays no part. -/
theorem lookup_eq_some_iff_mem {α : Type} {key : String} {entries : List (String × α)} {a : α}
    (h : (entries.filter (·.1 = key)).length ≤ 1) :
    entries.lookup key = some a ↔ (key, a) ∈ entries := by
  induction entries with
  | nil => simp
  | cons e es ih =>
    obtain ⟨k, b⟩ := e
    rw [lookup_entry_cons, List.mem_cons]
    by_cases hk : key = k
    · subst hk
      have hrest : es.filter (·.1 = key) = [] := by simpa using h
      have hnot : (key, a) ∉ es := fun hm => by
        have := List.filter_eq_nil_iff.1 hrest _ hm
        simp at this
      simp [hnot, eq_comm]
    · have hne : (key, a) ≠ (k, b) := fun he => hk (Prod.ext_iff.1 he).1
      rw [if_neg hk, or_iff_right hne]
      refine ih ?_
      simpa [Ne.symm hk] using h

end NodeLabels
