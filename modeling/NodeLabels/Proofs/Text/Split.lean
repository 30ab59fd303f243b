import NodeLabels.Text.Split
/-!
# Splitting and joining

Splitting at a separator and joining undo each other: a text splits into those pieces that are free
of the separator and join to the text (`splitAt_eq_iff`). The last piece is what follows the last
separator (`CutAtLast.getLast?_splitAt`).
-/

namespace NodeLabels.Text

variable {sep : Char} {piece cs : List Char} {pieces : List (List Char)}

theorem splitAt_of_not_mem (h : sep ∉ cs) : splitAt sep cs = [cs] := by
  induction cs with
  | nil => rfl
  | cons c cs ih =>
    have hc : c ≠ sep := fun e => h (by simp [e])
    rw [splitAt, if_neg hc, ih fun hm => h (List.mem_cons_of_mem c hm)]

theorem splitAt_append_cons (h : sep ∉ piece) (cs : List Char) :
    splitAt sep (piece ++ sep :: cs) = piece :: splitAt sep cs := by
  induction piece with
  | nil => simp [splitAt]
  | cons c piece ih =>
    have hc : c ≠ sep := fun e => h (by simp [e])
    rw [List.cons_append, splitAt, if_neg hc, ih fun hm => h (List.mem_cons_of_mem c hm)]

theorem splitAt_append (h : sep ∉ piece) (cs : List Char) :
    splitAt sep (cs ++ sep :: piece) = splitAt sep cs ++ [piece] := by
  induction cs with
  | nil => simp [splitAt, splitAt_of_not_mem h]
  | cons c cs ih =>
    by_cases hc : c = sep
    · simp [splitAt, hc, ih]
    · simp only [List.cons_append, splitAt, if_neg hc, ih]
      cases hs : splitAt sep cs with
      | nil => exact absurd hs (splitAt_ne_nil sep cs)
      | cons first rest => rfl

theorem not_mem_of_mem_splitAt (h : piece ∈ splitAt sep cs) : sep ∉ piece := by
  induction cs generalizing piece with
  | nil => simp_all [splitAt]
  | cons c cs ih =>
    rw [splitAt] at h
    split at h
    · rcases List.mem_cons.1 h with rfl | h
      · exact List.not_mem_nil
      · exact ih h
    rename_i hc
    cases hs : splitAt sep cs with
    | nil => exact absurd hs (splitAt_ne_nil sep cs)
    | cons first pieces =>
      rw [hs] at h ih
      rcases List.mem_cons.1 h with rfl | h
      · have hfirst := ih List.mem_cons_self
        simp [hfirst, Ne.symm hc]
      · exact ih (List.mem_cons_of_mem _ h)

theorem length_le_of_mem_splitAt (h : piece ∈ splitAt sep cs) : piece.length ≤ cs.length := by
  induction cs generalizing piece with
  | nil => simp_all [splitAt]
  | cons c cs ih =>
    rw [splitAt] at h
    split at h
    · rcases List.mem_cons.1 h with rfl | h
      · exact Nat.zero_le _
      · exact Nat.le_succ_of_le (ih h)
    cases hs : splitAt sep cs with
    | nil => exact absurd hs (splitAt_ne_nil sep cs)
    | cons first pieces =>
      rw [hs] at h ih
      rcases List.mem_cons.1 h with rfl | h
      · exact Nat.succ_le_succ (ih List.mem_cons_self)
      · exact Nat.le_succ_of_le (ih (List.mem_cons_of_mem _ h))

theorem splitAt_joinWith (hne : pieces ≠ []) (h : ∀ p ∈ pieces, sep ∉ p) :
    splitAt sep (joinWith sep pieces) = pieces := by
  induction pieces with
  | nil => exact absurd rfl hne
  | cons piece pieces ih =>
    obtain ⟨hpiece, hpieces⟩ := List.forall_mem_cons.1 h
    cases pieces with
    | nil => exact splitAt_of_not_mem hpiece
    | cons next pieces => rw [joinWith, splitAt_append_cons hpiece, ih (by simp) hpieces]

theorem splitAt_eq_iff : splitAt sep cs = pieces ↔
    pieces ≠ [] ∧ (∀ p ∈ pieces, sep ∉ p) ∧ joinWith sep pieces = cs := by
  constructor
  · rintro rfl
    exact ⟨splitAt_ne_nil sep cs, fun p => not_mem_of_mem_splitAt, joinWith_splitAt sep cs⟩
  · rintro ⟨hne, hfree, rfl⟩
    exact splitAt_joinWith hne hfree

/-! ## The last piece -/

/-- The text is cut right behind its last separator, or not at all if it has none. -/
structure CutAtLast (sep : Char) (cs front last : List Char) : Prop where
  whole : cs = front ++ last
  front : front = [] ∨ ∃ start, front = start ++ [sep]
  last : sep ∉ last

theorem exists_cutAtLast (sep : Char) (cs : List Char) :
    ∃ front last, CutAtLast sep cs front last := by
  induction cs with
  | nil => exact ⟨[], [], rfl, .inl rfl, List.not_mem_nil⟩
  | cons c cs ih =>
    obtain ⟨front, last, rfl, hfront, hlast⟩ := ih
    rcases hfront with rfl | ⟨start, rfl⟩
    · by_cases hc : c = sep
      · exact ⟨[c], last, rfl, .inr ⟨[], by rw [hc]; rfl⟩, hlast⟩
      · exact ⟨[], c :: last, rfl, .inl rfl, by simp [hlast, Ne.symm hc]⟩
    · exact ⟨c :: (start ++ [sep]), last, rfl, .inr ⟨c :: start, rfl⟩, hlast⟩

variable {front front' last last' : List Char}

theorem CutAtLast.getLast?_splitAt (h : CutAtLast sep cs front last) :
    (splitAt sep cs).getLast? = some last := by
  obtain ⟨rfl, rfl | ⟨start, rfl⟩, hlast⟩ := h
  · rw [List.nil_append, splitAt_of_not_mem hlast, List.getLast?_singleton]
  · rw [List.append_assoc, List.singleton_append, splitAt_append hlast, List.getLast?_concat]

theorem CutAtLast.unique (h : CutAtLast sep cs front last) (h' : CutAtLast sep cs front' last') :
    front = front' ∧ last = last' := by
  obtain rfl : last = last' :=
    Option.some.inj (h.getLast?_splitAt.symm.trans h'.getLast?_splitAt)
  exact ⟨List.append_cancel_right (h.whole.symm.trans h'.whole), rfl⟩

end NodeLabels.Text
