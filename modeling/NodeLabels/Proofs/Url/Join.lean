import NodeLabels.Url
/-!
# Joining with one slash

A join has one slash at the seam, however many stood there on either side (`join_eq`). So slashes at
the seam make no difference (`join_slashRun`), and of three texts it does not matter which two are
joined first (`join_assoc`).
-/

namespace NodeLabels.Url

/-- So many slashes and nothing else. -/
def slashRun (n : Nat) : String := String.ofList (List.replicate n '/')

/-- There is no slash at the end. -/
def EndsBare (s : String) : Prop := s.toList.getLast? ≠ some '/'

/-- There is no slash at the beginning. -/
def BeginsBare (s : String) : Prop := s.toList.head? ≠ some '/'

variable {s t : String} {k m n : Nat}

@[simp] theorem toList_slashRun (n : Nat) : (slashRun n).toList = List.replicate n '/' :=
  String.toList_ofList

theorem slashRun_add (m n : Nat) : slashRun (m + n) = slashRun m ++ slashRun n := by
  simp [← String.toList_inj, List.replicate_append_replicate]

theorem slashRun_one : slashRun 1 = "/" := rfl

theorem endsBare_empty : EndsBare "" := by simp [EndsBare]

theorem beginsBare_empty : BeginsBare "" := by simp [BeginsBare]

theorem endsBare_append_iff (hne : t ≠ "") : EndsBare (s ++ t) ↔ EndsBare t := by
  obtain ⟨c, hc⟩ : ∃ c, t.toList.getLast? = some c :=
    Option.isSome_iff_exists.1 (by simpa using hne)
  simp [EndsBare, List.getLast?_append, hc]

theorem beginsBare_append_iff (hne : s ≠ "") : BeginsBare (s ++ t) ↔ BeginsBare s := by
  obtain ⟨c, hc⟩ : ∃ c, s.toList.head? = some c := Option.isSome_iff_exists.1 (by simpa using hne)
  simp [BeginsBare, List.head?_append, hc]

/-! ## A text between its slashes -/

theorem exists_beginsBare (s : String) : ∃ n t, s = slashRun n ++ t ∧ BeginsBare t := by
  suffices h : ∀ cs : List Char, ∃ n ds, cs = List.replicate n '/' ++ ds ∧ ds.head? ≠ some '/' by
    obtain ⟨n, ds, hs, hhead⟩ := h s.toList
    exact ⟨n, String.ofList ds, by simp [← String.toList_inj, hs],
      by rwa [BeginsBare, String.toList_ofList]⟩
  intro cs
  induction cs with
  | nil => exact ⟨0, [], rfl, by simp⟩
  | cons c cs ih =>
    by_cases hc : c = '/'
    · obtain ⟨n, ds, rfl, hhead⟩ := ih
      exact ⟨n + 1, ds, by rw [hc]; rfl, hhead⟩
    · exact ⟨0, c :: cs, rfl, by simpa using hc⟩

theorem exists_endsBare (s : String) : ∃ t n, s = t ++ slashRun n ∧ EndsBare t := by
  obtain ⟨n, t, hs, hbare⟩ := exists_beginsBare (String.ofList s.toList.reverse)
  have hreverse : s.toList = t.toList.reverse ++ List.replicate n '/' := by
    have hlist := congrArg (List.reverse ∘ String.toList) hs
    simpa using hlist
  refine ⟨String.ofList t.toList.reverse, n, by simp [← String.toList_inj, hreverse], ?_⟩
  rwa [EndsBare, String.toList_ofList, List.getLast?_reverse]

/-! ## Joins -/

theorem dropWhile_slashes {cs : List Char} (h : cs.head? ≠ some '/') (n : Nat) :
    (List.replicate n '/' ++ cs).dropWhile (· = '/') = cs := by
  rw [List.dropWhile_append_of_pos (by simp)]
  cases cs with
  | nil => rfl
  | cons c cs => exact List.dropWhile_cons_of_neg (by simpa using h)

/-- The slashes at the seam become one. -/
theorem join_eq (hs : EndsBare s) (ht : BeginsBare t) (k m : Nat) :
    join (s ++ slashRun k) (slashRun m ++ t) = s ++ "/" ++ t := by
  have hfront : ((s ++ slashRun k).toList.reverse.dropWhile (· = '/')).reverse = s.toList := by
    have hhead : s.toList.reverse.head? ≠ some '/' := by rwa [List.head?_reverse]
    simp [dropWhile_slashes hhead]
  have hback : (slashRun m ++ t).toList.dropWhile (· = '/') = t.toList := by
    rw [String.toList_append, toList_slashRun, dropWhile_slashes ht]
  rw [join, hfront, hback]
  simp [← String.toList_inj]

theorem exists_join (s t : String) : ∃ front back k m, s = front ++ slashRun k ∧ EndsBare front ∧
    t = slashRun m ++ back ∧ BeginsBare back ∧ join s t = front ++ "/" ++ back := by
  obtain ⟨front, k, rfl, hfront⟩ := exists_endsBare s
  obtain ⟨m, back, rfl, hback⟩ := exists_beginsBare t
  exact ⟨front, back, k, m, rfl, hfront, rfl, hback, join_eq hfront hback k m⟩

/-- Slashes at the seam make no difference. -/
theorem join_slashRun (s t : String) (k m : Nat) :
    join (s ++ slashRun k) (slashRun m ++ t) = join s t := by
  obtain ⟨front, back, i, j, rfl, hfront, rfl, hback, hjoin⟩ := exists_join s t
  rw [hjoin, String.append_assoc, ← slashRun_add, ← String.append_assoc, ← slashRun_add,
    join_eq hfront hback]

theorem join_base_slashRun (s t : String) (k : Nat) : join (s ++ slashRun k) t = join s t := by
  simpa [slashRun] using join_slashRun s t k 0

/-- A text is slashes alone, or there are slashes around a core. -/
theorem exists_core (s : String) : (∃ n, s = slashRun n) ∨
    ∃ m core n, s = slashRun m ++ core ++ slashRun n ∧ core ≠ "" ∧ BeginsBare core ∧
      EndsBare core := by
  obtain ⟨t, n, rfl, ht⟩ := exists_endsBare s
  obtain ⟨m, core, rfl, hcore⟩ := exists_beginsBare t
  by_cases hne : core = ""
  · subst hne
    exact .inl ⟨m + n, by rw [String.append_empty, slashRun_add]⟩
  · exact .inr ⟨m, core, n, rfl, hne, hcore, (endsBare_append_iff hne).1 ht⟩

theorem join_assoc (a b c : String) : join (join a b) c = join a (join b c) := by
  obtain ⟨front, i, rfl, hfront⟩ := exists_endsBare a
  obtain ⟨j, back, rfl, hback⟩ := exists_beginsBare c
  rcases exists_core b with ⟨n, rfl⟩ | ⟨m, core, n, rfl, hne, hbegins, hends⟩
  · -- slashes alone leave one slash between the outer texts, on whichever side they come first
    have hleft : join (front ++ slashRun i) (slashRun n) = front ++ slashRun 1 := by
      have hjoin := join_eq hfront beginsBare_empty i n
      simpa [slashRun_one] using hjoin
    have hright : join (slashRun n) (slashRun j ++ back) = slashRun 1 ++ back := by
      have hjoin := join_eq endsBare_empty hback n j
      simpa [slashRun_one] using hjoin
    rw [hleft, hright, join_eq hfront hback, join_eq hfront hback]
  · have hleft : join (front ++ slashRun i) (slashRun m ++ core ++ slashRun n) =
        front ++ "/" ++ core ++ slashRun n := by
      rw [String.append_assoc, join_eq hfront ((beginsBare_append_iff hne).2 hbegins),
        String.append_assoc, String.append_assoc, String.append_assoc]
    have hright : join (slashRun m ++ core ++ slashRun n) (slashRun j ++ back) =
        slashRun m ++ (core ++ "/" ++ back) := by
      rw [join_eq ((endsBare_append_iff hne).2 hends) hback, String.append_assoc,
        String.append_assoc, String.append_assoc]
    have hcore : BeginsBare (core ++ "/" ++ back) := by
      rw [String.append_assoc]
      exact (beginsBare_append_iff hne).2 hbegins
    rw [hleft, hright, join_eq ((endsBare_append_iff hne).2 hends) hback, join_eq hfront hcore]
    simp only [String.append_assoc]

end NodeLabels.Url
