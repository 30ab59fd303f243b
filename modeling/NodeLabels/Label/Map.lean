import NodeLabels.Entries
/-!
# Label maps

Labels are kept in the order of their keys, each key once, so two maps are equal exactly when they
give every key the same value (`LabelMap.ext_find?`).
-/

namespace NodeLabels

structure LabelMap where
  entries : List (String × String)
  sorted : entries.Pairwise (fun a b => a.1 < b.1) := by simp
deriving DecidableEq

namespace LabelMap

instance : EmptyCollection LabelMap := ⟨{ entries := [] }⟩

/-- Puts the entry in its place; an entry with the same key gives way. -/
def insertEntry (key value : String) : List (String × String) → List (String × String)
  | [] => [(key, value)]
  | e :: es =>
    if key < e.1 then (key, value) :: e :: es
    else if key = e.1 then (key, value) :: es
    else e :: insertEntry key value es

theorem mem_insertEntry {key value : String} {e : String × String} {es : List (String × String)}
    (h : e ∈ insertEntry key value es) : e = (key, value) ∨ e ∈ es := by
  induction es with
  | nil => simpa [insertEntry] using h
  | cons d es ih => grind [insertEntry]

theorem lt_of_not_lt_of_ne {a b : String} (h : ¬ a < b) (hne : a ≠ b) : b < a := by
  by_cases hba : b < a
  · exact hba
  · exact absurd (String.le_antisymm (String.not_lt.1 hba) (String.not_lt.1 h)) hne

theorem sorted_insertEntry (key value : String) {es : List (String × String)}
    (h : es.Pairwise (fun a b => a.1 < b.1)) :
    (insertEntry key value es).Pairwise (fun a b => a.1 < b.1) := by
  induction es with
  | nil => simp [insertEntry]
  | cons d es ih =>
    obtain ⟨hd, hes⟩ := List.pairwise_cons.1 h
    rw [insertEntry]
    split
    · rename_i hlt
      refine List.pairwise_cons.2 ⟨fun e he => ?_, h⟩
      rcases List.mem_cons.1 he with rfl | he
      · exact hlt
      · exact String.lt_trans hlt (hd e he)
    · rename_i hlt
      split
      · rename_i heq
        exact List.pairwise_cons.2 ⟨fun e he => heq ▸ hd e he, hes⟩
      · rename_i hne
        refine List.pairwise_cons.2 ⟨fun e he => ?_, ih hes⟩
        rcases mem_insertEntry he with rfl | he
        · exact lt_of_not_lt_of_ne hlt hne
        · exact hd e he

def insert (m : LabelMap) (key value : String) : LabelMap :=
  { entries := insertEntry key value m.entries
    sorted := sorted_insertEntry key value m.sorted }

/-- Later pairs replace earlier ones with the same key. -/
def ofList (pairs : List (String × String)) : LabelMap :=
  pairs.foldl (fun m p => m.insert p.1 p.2) ∅

def find? (m : LabelMap) (key : String) : Option String := m.entries.lookup key

/-- Every entry of `n`, and those of `m` whose key `n` lacks. -/
def override (m n : LabelMap) : LabelMap := n.entries.foldl (fun m e => m.insert e.1 e.2) m

@[simp] theorem find?_empty (key : String) : (∅ : LabelMap).find? key = none := rfl

theorem lookup_insertEntry (key value k : String) (es : List (String × String)) :
    (insertEntry key value es).lookup k = if k = key then some value else es.lookup k := by
  induction es with
  | nil => rw [insertEntry, lookup_entry_cons]
  | cons d es ih =>
    rw [insertEntry]
    split
    · rw [lookup_entry_cons]
    · split
      · rename_i heq
        rw [lookup_entry_cons, lookup_entry_cons]
        by_cases hk : k = key
        · rw [if_pos hk, if_pos hk]
        · rw [if_neg hk, if_neg hk, if_neg (heq ▸ hk)]
      · rename_i hne
        rw [lookup_entry_cons, lookup_entry_cons, ih]
        by_cases hk : k = key
        · rw [if_pos hk, if_pos hk, if_neg (hk ▸ hne)]
        · rw [if_neg hk, if_neg hk]

@[simp, grind =] theorem find?_insert (m : LabelMap) (key value k : String) :
    (m.insert key value).find? k = if k = key then some value else m.find? k :=
  lookup_insertEntry key value k m.entries

theorem lookup_eq_none_of_lt {k : String} {es : List (String × String)}
    (h : ∀ e ∈ es, k < e.1) : es.lookup k = none := by
  induction es with
  | nil => rfl
  | cons d es ih =>
    have hne : k ≠ d.1 := fun heq => String.lt_irrefl k (heq ▸ h d (by simp) : k < k)
    rw [lookup_entry_cons, if_neg hne]
    exact ih fun e he => h e (by simp [he])

theorem entries_eq_of_lookup {es fs : List (String × String)}
    (hes : es.Pairwise (fun a b => a.1 < b.1)) (hfs : fs.Pairwise (fun a b => a.1 < b.1))
    (h : ∀ k, es.lookup k = fs.lookup k) : es = fs := by
  induction es generalizing fs with
  | nil =>
    cases fs with
    | nil => rfl
    | cons f fs => simpa [lookup_entry_cons] using h f.1
  | cons e es ih =>
    cases fs with
    | nil => simpa [lookup_entry_cons] using h e.1
    | cons f fs =>
      obtain ⟨he, hes'⟩ := List.pairwise_cons.1 hes
      obtain ⟨hf, hfs'⟩ := List.pairwise_cons.1 hfs
      -- the smaller of the two first keys would be missing on the other side
      have hkey : e.1 = f.1 := by
        refine Decidable.byContradiction fun hne => ?_
        by_cases hlt : e.1 < f.1
        · have hnone : (f :: fs).lookup e.1 = none := lookup_eq_none_of_lt fun d hd => by
            rcases List.mem_cons.1 hd with rfl | hd
            · exact hlt
            · exact String.lt_trans hlt (hf d hd)
          have := h e.1
          rw [hnone] at this
          simp [lookup_entry_cons] at this
        · have hgt := lt_of_not_lt_of_ne hlt hne
          have hnone : (e :: es).lookup f.1 = none := lookup_eq_none_of_lt fun d hd => by
            rcases List.mem_cons.1 hd with rfl | hd
            · exact hgt
            · exact String.lt_trans hgt (he d hd)
          have := h f.1
          rw [hnone] at this
          simp [lookup_entry_cons] at this
      have hval : e = f := by
        have := h e.1
        simp only [lookup_entry_cons, hkey, if_true, Option.some.injEq] at this
        exact Prod.ext hkey this
      subst hval
      congr 1
      refine ih hes' hfs' fun k => ?_
      by_cases hk : k = e.1
      · subst hk
        rw [lookup_eq_none_of_lt he, lookup_eq_none_of_lt hf]
      · simpa [lookup_entry_cons, hk] using h k

theorem ext_find? {m n : LabelMap} (h : ∀ k, m.find? k = n.find? k) : m = n := by
  cases m; cases n
  simp only [mk.injEq]
  exact entries_eq_of_lookup ‹_› ‹_› h

theorem find?_override (m n : LabelMap) (key : String) :
    (m.override n).find? key = (n.find? key).or (m.find? key) := by
  obtain ⟨es, hsorted⟩ := n
  change (es.foldl (fun m e => m.insert e.1 e.2) m).find? key = (es.lookup key).or (m.find? key)
  induction es generalizing m with
  | nil => rfl
  | cons e es ih =>
    obtain ⟨hlt, hes⟩ := List.pairwise_cons.1 hsorted
    rw [List.foldl_cons, ih _ hes, find?_insert, lookup_entry_cons]
    by_cases hkey : key = e.1
    · rw [hkey, lookup_eq_none_of_lt hlt, if_pos rfl, if_pos rfl]
      rfl
    · rw [if_neg hkey, if_neg hkey]

theorem lookup_of_mem {es : List (String × String)} (hsorted : es.Pairwise fun a b => a.1 < b.1)
    {e : String × String} (he : e ∈ es) : es.lookup e.1 = some e.2 := by
  induction es with
  | nil => cases he
  | cons d es ih =>
    obtain ⟨hlt, hes⟩ := List.pairwise_cons.1 hsorted
    rw [lookup_entry_cons]
    rcases List.mem_cons.1 he with rfl | he
    · exact if_pos rfl
    · have hne : e.1 ≠ d.1 := fun heq => String.lt_irrefl e.1 (heq ▸ hlt e he : e.1 < e.1)
      rw [if_neg hne, ih hes he]

end LabelMap

end NodeLabels
