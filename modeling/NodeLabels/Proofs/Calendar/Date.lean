import NodeLabels.Calendar.Date
/-!
# The calendar

Counting the days to a date and finding the date after so many days undo each other on the dates
that exist (`toDays_ofDays`, `ofDays_toDays_iff`), and keep the order of dates (`before_iff`). Both
follow the calendar: the day after a date has the next number (`toDays_next`).
-/

namespace NodeLabels.Calendar

/-- The year has a leap day. -/
def IsLeap (year : Int) : Prop := year % 4 = 0 ∧ (year % 100 ≠ 0 ∨ year % 400 = 0)

instance (year : Int) : Decidable (IsLeap year) := inferInstanceAs (Decidable (_ ∧ _))

def monthLength (year : Int) (month : Nat) : Nat :=
  if month = 2 then if IsLeap year then 29 else 28
  else if month = 4 ∨ month = 6 ∨ month = 9 ∨ month = 11 then 30
  else 31

namespace Date

/-- The date is one of the calendar. -/
structure Exists (d : Date) : Prop where
  month_pos : 1 ≤ d.month
  month_le : d.month ≤ 12
  day_pos : 1 ≤ d.day
  day_le : d.day ≤ monthLength d.year d.month

def next (d : Date) : Date :=
  if d.day < monthLength d.year d.month then { d with day := d.day + 1 }
  else if d.month < 12 then ⟨d.year, d.month + 1, 1⟩
  else ⟨d.year + 1, 1, 1⟩

def Before (d e : Date) : Prop :=
  d.year < e.year ∨ d.year = e.year ∧ (d.month < e.month ∨ d.month = e.month ∧ d.day < e.day)

variable {d e : Date}

theorem eq_iff : d = e ↔ d.year = e.year ∧ d.month = e.month ∧ d.day = e.day := by
  cases d
  cases e
  rw [mk.injEq]

theorem before_trichotomy (d e : Date) : d.Before e ∨ d = e ∨ e.Before d := by
  rw [eq_iff, Before, Before]
  omega

/-! ## Years from March -/

/-- The year in which the date lies, if years begin in March. -/
def marchYear (d : Date) : Int := if d.month ≤ 2 then d.year - 1 else d.year

/-- The month of that year, from 0 on. -/
def marchMonth (d : Date) : Nat := if d.month > 2 then d.month - 3 else d.month + 9

theorem march_cases (d : Date) :
    d.month ≤ 2 ∧ d.marchYear = d.year - 1 ∧ d.marchMonth = d.month + 9 ∨
      2 < d.month ∧ d.marchYear = d.year ∧ d.marchMonth = d.month - 3 := by
  unfold marchYear marchMonth
  by_cases h : d.month ≤ 2
  · exact .inl ⟨h, if_pos h, if_neg (Nat.not_lt.2 h)⟩
  · exact .inr ⟨Nat.lt_of_not_le h, if_neg h, if_pos (Nat.lt_of_not_le h)⟩

/-- The days from March of the year 0 to March of the given year. -/
def daysBeforeMarch (year : Int) : Int := 365 * year + year / 4 - year / 100 + year / 400

theorem daysBeforeMarch_succ (year : Int) : daysBeforeMarch (year + 1) =
    daysBeforeMarch year + if IsLeap (year + 1) then 366 else 365 := by
  unfold daysBeforeMarch
  by_cases h : IsLeap (year + 1)
  · rw [if_pos h]
    rw [IsLeap] at h
    omega
  · rw [if_neg h]
    rw [IsLeap] at h
    omega

theorem daysBeforeMarch_succ_bounds (year : Int) :
    daysBeforeMarch year + 365 ≤ daysBeforeMarch (year + 1) ∧
      daysBeforeMarch (year + 1) ≤ daysBeforeMarch year + 366 := by
  unfold daysBeforeMarch
  omega

theorem daysBeforeMarch_le {year year' : Int} (h : year ≤ year') :
    daysBeforeMarch year ≤ daysBeforeMarch year' := by
  unfold daysBeforeMarch
  omega

theorem daysBeforeMarch_add_era (era : Int) (y : Nat) (hy : y < 400) :
    daysBeforeMarch (y + era * 400) = era * 146097 + daysBeforeYear y := by
  unfold daysBeforeMarch daysBeforeYear
  omega

theorem toDays_eq (hday : 1 ≤ d.day) :
    d.toDays = daysBeforeMarch d.marchYear + daysBeforeMonth d.marchMonth + d.day - 1 - 719468 := by
  have hdays : d.toDays = d.marchYear.fdiv 400 * 146097 +
      (daysBeforeYear (d.marchYear.fmod 400).toNat + daysBeforeMonth d.marchMonth + d.day - 1 :
        Nat) - 719468 := rfl
  rw [Int.fdiv_eq_ediv_of_nonneg _ (by decide), Int.fmod_eq_emod_of_nonneg _ (by decide)] at hdays
  have hyear : d.marchYear = (d.marchYear % 400).toNat + d.marchYear / 400 * 400 := by omega
  have hmarch := daysBeforeMarch_add_era (d.marchYear / 400) (d.marchYear % 400).toNat (by omega)
  rw [← hyear] at hmarch
  omega

/-! ## The count along the calendar -/

theorem daysBeforeMonth_le {m m' : Nat} (h : m ≤ m') : daysBeforeMonth m ≤ daysBeforeMonth m' := by
  unfold daysBeforeMonth
  omega

/-- February comes last in a year from March, and all other months have fixed lengths. -/
theorem daysBeforeMonth_succ (hpos : 1 ≤ d.month) (hle : d.month ≤ 12) (hm : d.marchMonth < 11) :
    daysBeforeMonth (d.marchMonth + 1) =
      daysBeforeMonth d.marchMonth + monthLength d.year d.month := by
  have hmarch := march_cases d
  have hfebruary : d.month ≠ 2 := by omega
  have hfixed : ∀ month < 13, 1 ≤ month → month ≠ 2 →
      daysBeforeMonth ((if month > 2 then month - 3 else month + 9) + 1) =
        daysBeforeMonth (if month > 2 then month - 3 else month + 9) +
          if month = 4 ∨ month = 6 ∨ month = 9 ∨ month = 11 then 30 else 31 := by decide
  rw [monthLength, if_neg hfebruary]
  exact hfixed d.month (by omega) hpos hfebruary

/-- The year ends with February. -/
theorem daysBeforeMarch_succ_eq (hpos : 1 ≤ d.month) (hle : d.month ≤ 12)
    (hm : ¬ d.marchMonth < 11) : d.marchMonth = 11 ∧
      daysBeforeMarch (d.marchYear + 1) =
        daysBeforeMarch d.marchYear + daysBeforeMonth 11 + monthLength d.year d.month := by
  have hmarch := march_cases d
  have hmonth : d.month = 2 := by omega
  have hyear : d.marchYear + 1 = d.year := by omega
  have hdays : daysBeforeMonth 11 = 337 := rfl
  refine ⟨by omega, ?_⟩
  rw [daysBeforeMarch_succ, monthLength, if_pos hmonth, hyear, hdays]
  split <;> omega

/-- A date lies before the next March. -/
theorem daysBeforeMonth_add_day_le (h : d.Exists) :
    ((daysBeforeMonth d.marchMonth + d.day : Nat) : Int) ≤
      daysBeforeMarch (d.marchYear + 1) - daysBeforeMarch d.marchYear := by
  have hday := h.day_le
  by_cases hm : d.marchMonth < 11
  · have hnext := daysBeforeMonth_succ h.month_pos h.month_le hm
    have hmono : daysBeforeMonth (d.marchMonth + 1) ≤ daysBeforeMonth 11 := daysBeforeMonth_le hm
    have hlast : daysBeforeMonth 11 = 337 := rfl
    have hyear := (daysBeforeMarch_succ_bounds d.marchYear).1
    omega
  · obtain ⟨heq, hyear⟩ := daysBeforeMarch_succ_eq h.month_pos h.month_le hm
    rw [heq]
    omega

theorem before_march (hd : d.Exists) (he : e.Exists) (h : d.Before e) :
    d.marchYear < e.marchYear ∨ d.marchYear = e.marchYear ∧
      (d.marchMonth < e.marchMonth ∨ d.marchMonth = e.marchMonth ∧ d.day < e.day) := by
  obtain ⟨hpos, hle, -, -⟩ := hd
  obtain ⟨hpos', hle', -, -⟩ := he
  have hmarch := march_cases d
  have hmarch' := march_cases e
  unfold Before at h
  omega

theorem toDays_lt_toDays (hd : d.Exists) (he : e.Exists) (h : d.Before e) :
    d.toDays < e.toDays := by
  have hday' := he.day_pos
  rw [toDays_eq hd.day_pos, toDays_eq hday']
  rcases before_march hd he h with hyear | ⟨hyear, hmonth | ⟨hmonth, hlt⟩⟩
  · have hend := daysBeforeMonth_add_day_le hd
    have hmono := daysBeforeMarch_le (Int.add_one_le_of_lt hyear)
    omega
  · have hlast := march_cases e
    have hle := he.month_le
    have hnext := daysBeforeMonth_succ hd.month_pos hd.month_le (by omega)
    have hmono : daysBeforeMonth (d.marchMonth + 1) ≤ _ := daysBeforeMonth_le hmonth
    have hday := hd.day_le
    rw [hyear]
    omega
  · rw [hyear, hmonth]
    omega

theorem monthLength_bounds (year : Int) (month : Nat) :
    28 ≤ monthLength year month ∧ monthLength year month ≤ 31 := by
  unfold monthLength
  repeat' split
  all_goals decide

theorem Exists.next (h : d.Exists) : d.next.Exists := by
  obtain ⟨hpos, hle, hday, hday'⟩ := h
  have hlength (year : Int) (month : Nat) : 1 ≤ monthLength year month :=
    Nat.le_trans (by decide) (monthLength_bounds year month).1
  unfold Date.next
  split
  · rename_i hlt
    exact ⟨hpos, hle, by dsimp only; omega, hlt⟩
  split
  · rename_i hmonth
    exact ⟨by dsimp only; omega, hmonth, Nat.le_refl 1, hlength _ _⟩
  · exact ⟨Nat.le_refl 1, Nat.le_add_left 1 11, Nat.le_refl 1, hlength _ _⟩

/-- After the last day of a month comes the first day of the next month, which is March of the next
year if the month was the last one before. -/
theorem next_of_last (h : d.Exists) (hlast : d.day = monthLength d.year d.month) :
    d.next.day = 1 ∧
      (d.marchMonth < 11 ∧ d.next.marchYear = d.marchYear ∧ d.next.marchMonth = d.marchMonth + 1 ∨
        d.marchMonth = 11 ∧ d.next.marchYear = d.marchYear + 1 ∧ d.next.marchMonth = 0) := by
  have hpos := h.month_pos
  have hle := h.month_le
  have hmarch := march_cases d
  have hmarch' := march_cases d.next
  by_cases hmonth : d.month < 12
  · have hnext : d.next = ⟨d.year, d.month + 1, 1⟩ := by
      rw [next, if_neg (by omega), if_pos hmonth]
    simp only [hnext] at hmarch' ⊢
    exact ⟨trivial, by omega⟩
  · have hnext : d.next = ⟨d.year + 1, 1, 1⟩ := by
      rw [next, if_neg (by omega), if_neg hmonth]
    simp only [hnext] at hmarch' ⊢
    exact ⟨trivial, by omega⟩

/-- The day after a date has the next number. -/
theorem toDays_next (h : d.Exists) : d.next.toDays = d.toDays + 1 := by
  rw [toDays_eq h.next.day_pos, toDays_eq h.day_pos]
  by_cases hlt : d.day < monthLength d.year d.month
  · have hnext : d.next = { d with day := d.day + 1 } := if_pos hlt
    rw [hnext]
    change daysBeforeMarch d.marchYear + daysBeforeMonth d.marchMonth + ((d.day + 1 : Nat) : Int) -
      1 - 719468 = _
    omega
  · have hlast : d.day = monthLength d.year d.month := Nat.le_antisymm h.day_le (Nat.not_lt.1 hlt)
    obtain ⟨hone, ⟨hm, hyear, hmonth⟩ | ⟨hm, hyear, hmonth⟩⟩ := next_of_last h hlast
    · have hlength := daysBeforeMonth_succ h.month_pos h.month_le hm
      rw [hone, hyear, hmonth]
      omega
    · obtain ⟨-, hlength⟩ := daysBeforeMarch_succ_eq h.month_pos h.month_le (by omega)
      have hfirst : daysBeforeMonth 0 = 0 := rfl
      rw [hone, hyear, hmonth, hm, hlast, hlength, hfirst]
      omega

example : (Date.mk 1970 1 1).toDays = 0 := by decide

/-! ## Years of an era -/

/-- The days of the year `y` of an era, which ends with the February after it. -/
def marchYearLength (y : Nat) : Nat := if IsLeap (y + 1) then 366 else 365

theorem daysBeforeMarch_succ_sub (era : Int) (y : Nat) :
    daysBeforeMarch (y + era * 400 + 1) - daysBeforeMarch (y + era * 400) = marchYearLength y := by
  have hleap : IsLeap (y + era * 400 + 1) ↔ IsLeap (y + 1) := by
    unfold IsLeap
    omega
  rw [daysBeforeMarch_succ, marchYearLength]
  simp only [hleap]
  split <;> omega

theorem daysBeforeYear_succ {y : Nat} (hy : y + 1 < 400) :
    daysBeforeYear (y + 1) = daysBeforeYear y + marchYearLength y := by
  have hlength := daysBeforeMarch_succ_sub 0 y
  have hthis := daysBeforeMarch_add_era 0 y (by omega)
  have hnext := daysBeforeMarch_add_era 0 (y + 1) hy
  simp only [Int.zero_mul, Int.add_zero, Int.zero_add, Int.natCast_succ] at hlength hthis hnext
  omega

/-- Each day of an era falls into one of its 400 years. -/
theorem exists_yearOfEra {n : Nat} (hn : n < 146097) :
    ∃ y < 400, daysBeforeYear y ≤ n ∧ n < daysBeforeYear y + marchYearLength y := by
  induction n with
  | zero => exact ⟨0, by decide⟩
  | succ n ih =>
    obtain ⟨y, hy, hle, hlt⟩ := ih (by omega)
    by_cases hend : n + 1 < daysBeforeYear y + marchYearLength y
    · exact ⟨y, hy, by omega, hend⟩
    · have hlast : daysBeforeYear 399 + marchYearLength 399 = 146097 := by decide
      have hne : y ≠ 399 := by
        rintro rfl
        omega
      have hsucc := daysBeforeYear_succ (by omega : y + 1 < 400)
      have hpos : 0 < marchYearLength (y + 1) := by
        unfold marchYearLength
        split <;> decide
      exact ⟨y + 1, by omega, by omega, by omega⟩

/-- The days of an era up to `n`, without the leap days of the years that ended before. -/
def commonDays (n : Nat) : Nat := n - n / 1460 + n / 36524 - n / 146096

theorem commonDays_le {m n : Nat} (h : m ≤ n) (hn : n < 146097) : commonDays m ≤ commonDays n := by
  induction h with
  | refl => exact Nat.le_refl _
  | @step n h ih =>
    refine Nat.le_trans (ih (by omega)) ?_
    unfold commonDays
    omega

theorem commonDays_div {n y : Nat} (hy : y < 400) (hle : daysBeforeYear y ≤ n)
    (hlt : n < daysBeforeYear y + marchYearLength y) : commonDays n / 365 = y := by
  have hends : ∀ y < 400, 365 * y ≤ commonDays (daysBeforeYear y) ∧
      commonDays (daysBeforeYear y + marchYearLength y - 1) < 365 * (y + 1) ∧
      daysBeforeYear y + marchYearLength y ≤ 146097 := by
    decide +kernel
  obtain ⟨hfirst, hlast, hera⟩ := hends y hy
  have hmono := commonDays_le hle (by omega)
  have hmono' := commonDays_le (Nat.le_sub_one_of_lt hlt) (by omega)
  omega

/-! ## The date of a day -/

/-- The year, the day of the year and the month that are found for a day, counted from March. -/
theorem exists_ofDays_eq (n : Int) : ∃ (year : Int) (dayOfYear month : Nat),
    n + 719468 = daysBeforeMarch year + dayOfYear ∧
    (dayOfYear : Int) < daysBeforeMarch (year + 1) - daysBeforeMarch year ∧
    month = (5 * dayOfYear + 2) / 153 ∧
    ofDays n =
      { year := year + if (if month < 10 then month + 3 else month - 9) ≤ 2 then 1 else 0
        month := if month < 10 then month + 3 else month - 9
        day := dayOfYear - daysBeforeMonth month + 1 } := by
  have hlt : ((n + 719468).fmod 146097).toNat < 146097 := by
    rw [Int.fmod_eq_emod_of_nonneg _ (by decide)]
    omega
  obtain ⟨y, hy, hle, hlt'⟩ := exists_yearOfEra hlt
  have hyear := commonDays_div hy hle hlt'
  have hstart := daysBeforeMarch_add_era ((n + 719468).fdiv 146097) y hy
  refine ⟨y + (n + 719468).fdiv 146097 * 400,
    ((n + 719468).fmod 146097).toNat - daysBeforeYear y, _, ?_, ?_, rfl, ?_⟩
  · rw [hstart, Int.fdiv_eq_ediv_of_nonneg _ (by decide)]
    rw [Int.fmod_eq_emod_of_nonneg _ (by decide)] at hle ⊢
    omega
  · rw [daysBeforeMarch_succ_sub]
    omega
  · unfold commonDays at hyear
    unfold ofDays
    simp only [hyear]

/-- The date is found by its place in a year from March. -/
theorem march_ofDays (n : Int) : ∃ dayOfYear : Nat,
    1 ≤ (ofDays n).month ∧ (ofDays n).month ≤ 12 ∧
    n + 719468 = daysBeforeMarch (ofDays n).marchYear + dayOfYear ∧
    (dayOfYear : Int) < daysBeforeMarch ((ofDays n).marchYear + 1) -
      daysBeforeMarch (ofDays n).marchYear ∧
    dayOfYear < daysBeforeMonth ((ofDays n).marchMonth + 1) ∧ 1 ≤ (ofDays n).day ∧
    dayOfYear + 1 = daysBeforeMonth (ofDays n).marchMonth + (ofDays n).day := by
  obtain ⟨year, dayOfYear, month, hcount, hlt, hmonth, hdate⟩ := exists_ofDays_eq n
  have hlength := (daysBeforeMarch_succ_bounds year).2
  have hmonth' : month < 12 := by omega
  have hle : daysBeforeMonth month ≤ dayOfYear := by
    unfold daysBeforeMonth
    omega
  have hnext : dayOfYear < daysBeforeMonth (month + 1) := by
    unfold daysBeforeMonth
    omega
  have hday : (ofDays n).day = dayOfYear - daysBeforeMonth month + 1 := by rw [hdate]
  have hplace : 1 ≤ (ofDays n).month ∧ (ofDays n).month ≤ 12 ∧ (ofDays n).marchYear = year ∧
      (ofDays n).marchMonth = month := by
    have hmarch := march_cases (ofDays n)
    by_cases hfirst : month < 10
    · rw [if_pos hfirst, if_neg (by omega)] at hdate
      simp only [hdate] at hmarch ⊢
      omega
    · rw [if_neg hfirst, if_pos (by omega)] at hdate
      simp only [hdate] at hmarch ⊢
      omega
  obtain ⟨hpos, hle12, hmarchYear, hmarchMonth⟩ := hplace
  rw [hmarchYear, hmarchMonth, hday]
  exact ⟨dayOfYear, hpos, hle12, hcount, hlt, hnext, by omega, by omega⟩

theorem ofDays_exists (n : Int) : (ofDays n).Exists := by
  obtain ⟨dayOfYear, hpos, hle, -, hlt, hnext, hday, hplace⟩ := march_ofDays n
  refine ⟨hpos, hle, hday, ?_⟩
  by_cases hm : (ofDays n).marchMonth < 11
  · have hlength := daysBeforeMonth_succ hpos hle hm
    omega
  · obtain ⟨heq, hlength⟩ := daysBeforeMarch_succ_eq hpos hle hm
    rw [heq] at hplace
    omega

theorem toDays_ofDays (n : Int) : (ofDays n).toDays = n := by
  obtain ⟨dayOfYear, -, -, hcount, -, -, hday, hplace⟩ := march_ofDays n
  rw [toDays_eq hday]
  omega

/-- The count keeps the order of dates. -/
theorem before_iff (hd : d.Exists) (he : e.Exists) : d.Before e ↔ d.toDays < e.toDays := by
  refine ⟨toDays_lt_toDays hd he, fun h => ?_⟩
  rcases before_trichotomy d e with hlt | rfl | hgt
  · exact hlt
  · exact absurd h (Int.lt_irrefl _)
  · exact absurd (toDays_lt_toDays he hd hgt) (Int.lt_asymm h)

theorem toDays_inj (hd : d.Exists) (he : e.Exists) : d.toDays = e.toDays ↔ d = e := by
  refine ⟨fun h => ?_, congrArg toDays⟩
  rcases before_trichotomy d e with hlt | heq | hgt
  · exact absurd h (Int.ne_of_lt (toDays_lt_toDays hd he hlt))
  · exact heq
  · exact absurd h (Int.ne_of_gt (toDays_lt_toDays he hd hgt))

theorem ofDays_toDays_iff : ofDays d.toDays = d ↔ d.Exists := by
  constructor
  · intro h
    rw [← h]
    exact ofDays_exists _
  · intro h
    exact (toDays_inj (ofDays_exists _) h).1 (toDays_ofDays _)

end Date
end NodeLabels.Calendar
