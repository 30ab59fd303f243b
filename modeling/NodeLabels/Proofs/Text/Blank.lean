import Mathlib.Data.List.TakeWhile
import NodeLabels.Text.Blank
/-!
# Blank texts

A text is blank if its characters are, and trimming makes no text blank. Nothing but blanks is
trimmed, as many as there are at the ends: blanks that are added there make no difference, and what
is left has none (`trimChars_eq_self_iff`).
-/

namespace NodeLabels.Text

theorem mem_dropWhile_of_not_blank {c : Char} {cs : List Char} (hc : c ∈ cs)
    (hblank : isBlank c ≠ true) : c ∈ cs.dropWhile isBlank := by
  rw [← List.takeWhile_append_dropWhile (p := isBlank) (l := cs)] at hc
  obtain htaken | hdropped := List.mem_append.1 hc
  · have hall := List.all_eq_true.1 (List.all_takeWhile (p := isBlank) (l := cs)) c htaken
    exact absurd hall hblank
  · exact hdropped

theorem mem_trimChars_of_not_blank {c : Char} {cs : List Char} (hc : c ∈ cs)
    (hblank : isBlank c ≠ true) : c ∈ trimChars cs := by
  have hleft : c ∈ trimLeft cs := mem_dropWhile_of_not_blank hc hblank
  unfold trimChars trimRight
  rw [List.mem_reverse]
  exact mem_dropWhile_of_not_blank (List.mem_reverse.2 hleft) hblank

theorem trimChars_subset (cs : List Char) : trimChars cs ⊆ cs := by
  intro c hc
  have hleft := (List.dropWhile_suffix isBlank).subset (List.mem_reverse.1 hc)
  exact (List.dropWhile_suffix isBlank).subset (List.mem_reverse.1 hleft)

/-! ## What trimming takes away -/

theorem trimChars_surrounded {before after : List Char} (hbefore : ∀ c ∈ before, isBlank c = true)
    (hafter : ∀ c ∈ after, isBlank c = true) (cs : List Char) :
    trimChars (before ++ cs ++ after) = trimChars cs := by
  have hleft : trimLeft (before ++ cs ++ after) = trimLeft (cs ++ after) := by
    rw [trimLeft, List.append_assoc, List.dropWhile_append_of_pos hbefore, trimLeft]
  have hnone : after.dropWhile isBlank = [] := List.dropWhile_eq_nil_iff.2 hafter
  have hright (rest : List Char) : trimRight (rest ++ after) = trimRight rest := by
    rw [trimRight, List.reverse_append,
      List.dropWhile_append_of_pos fun c hc => hafter c (List.mem_reverse.1 hc), trimRight]
  rw [trimChars, trimChars, hleft, trimLeft, trimLeft, List.dropWhile_append, hnone]
  cases hcs : cs.dropWhile isBlank with
  | nil => rfl
  | cons c rest => exact hright (c :: rest)

theorem exists_surrounded (cs : List Char) : ∃ before after, cs = before ++ trimChars cs ++ after ∧
    (∀ c ∈ before, isBlank c = true) ∧ ∀ c ∈ after, isBlank c = true := by
  have htaken (l : List Char) : ∀ c ∈ l.takeWhile isBlank, isBlank c = true :=
    List.all_eq_true.1 List.all_takeWhile
  refine ⟨cs.takeWhile isBlank, ((trimLeft cs).reverse.takeWhile isBlank).reverse, ?_, htaken cs,
    fun c hc => htaken _ c (List.mem_reverse.1 hc)⟩
  rw [trimChars, trimRight, List.append_assoc, ← List.reverse_append,
    List.takeWhile_append_dropWhile, List.reverse_reverse, trimLeft,
    List.takeWhile_append_dropWhile]

theorem trimChars_trimChars (cs : List Char) : trimChars (trimChars cs) = trimChars cs := by
  obtain ⟨before, after, hcs, hbefore, hafter⟩ := exists_surrounded cs
  have htrim := trimChars_surrounded hbefore hafter (trimChars cs)
  rwa [← hcs, eq_comm] at htrim

theorem dropWhile_eq_self_iff_head? {cs : List Char} :
    cs.dropWhile isBlank = cs ↔ ∀ c ∈ cs.head?, isBlank c = false := by
  cases cs with
  | nil => simp
  | cons c cs => simp [List.dropWhile_eq_self_iff]

/-- A text that trimming leaves as it is has no blank at either end. -/
theorem trimChars_eq_self_iff {cs : List Char} : trimChars cs = cs ↔
    (∀ c ∈ cs.head?, isBlank c = false) ∧ ∀ c ∈ cs.getLast?, isBlank c = false := by
  have hright : trimRight cs = cs ↔ ∀ c ∈ cs.getLast?, isBlank c = false := by
    rw [trimRight, List.reverse_eq_iff, dropWhile_eq_self_iff_head?, List.head?_reverse]
  rw [← dropWhile_eq_self_iff_head?, ← hright]
  constructor
  · intro htrim
    have hsuffix : trimLeft cs <:+ cs := List.dropWhile_suffix isBlank
    have hle : (trimRight (trimLeft cs)).length ≤ (trimLeft cs).length := by
      simpa [trimRight] using List.length_dropWhile_le isBlank (trimLeft cs).reverse
    have hlength : cs.length ≤ (trimLeft cs).length := by rwa [← trimChars, htrim] at hle
    have hleft : trimLeft cs = cs := hsuffix.eq_of_length_le hlength
    exact ⟨hleft, by rwa [trimChars, hleft] at htrim⟩
  · rintro ⟨hleft, hright⟩
    rw [trimChars, trimLeft, hleft, hright]

/-! ## Blank texts -/

theorem isAllBlank_iff {s : String} : isAllBlank s = true ↔ ∀ c ∈ s.toList, isBlank c = true := by
  unfold isAllBlank
  rw [List.isEmpty_iff]
  constructor
  · intro hempty c hc
    by_contra hblank
    have hmem := mem_trimChars_of_not_blank hc hblank
    rw [hempty] at hmem
    exact nomatch hmem
  · intro hall
    have hleft : trimLeft s.toList = [] := List.dropWhile_eq_nil_iff.2 hall
    rw [trimChars, hleft]
    rfl

theorem isAllBlank_trim (s : String) : isAllBlank (trim s) = isAllBlank s := by
  rw [Bool.eq_iff_iff, isAllBlank_iff, isAllBlank_iff, toList_trim]
  constructor
  · intro hall c hc
    by_contra hblank
    exact hblank (hall c (mem_trimChars_of_not_blank hc hblank))
  · exact fun hall c hc => hall c (trimChars_subset _ hc)

end NodeLabels.Text
