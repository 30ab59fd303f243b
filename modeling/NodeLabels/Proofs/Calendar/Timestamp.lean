import NodeLabels.Calendar.Timestamp
import NodeLabels.Proofs.Calendar.Date
import NodeLabels.Proofs.Calendar.Position
import NodeLabels.Proofs.Text.Digits
/-!
# Timestamps

A text is read as an instant exactly if it is a timestamp of RFC 3339 for a date and a time that
exist (`ofChars?_eq_some_iff`). What was written is read back, rounded down to the second
(`Plain.ofChars?_timestamp`), and the order of timestamps as texts is their order in time
(`Plain.timestamp_lt_iff`).
-/

namespace NodeLabels.Calendar

/-! ## Fields -/

/-- So many digits with this value. -/
structure IsField (width n : Nat) (cs : List Char) : Prop where
  length : cs.length = width
  value : Text.decimal? cs = some n

section Field

variable {width m n : Nat} {cs ds : List Char} {c : Char}

theorem IsField.lt_iff (hcs : IsField width m cs) (hds : IsField width n ds) :
    cs < ds ↔ m < n := by
  obtain ⟨-, hdigits, hvalue⟩ := Text.decimal?_eq_some_iff.1 hcs.value
  obtain ⟨-, hdigits', hvalue'⟩ := Text.decimal?_eq_some_iff.1 hds.value
  rw [Text.lt_iff_decimal_lt hdigits hdigits' (hcs.length.trans hds.length.symm), hvalue, hvalue']

theorem IsField.eq_iff (hcs : IsField width m cs) (hds : IsField width n ds) :
    cs = ds ↔ m = n := by
  constructor
  · rintro rfl
    exact Option.some.inj (hcs.value.symm.trans hds.value)
  · rintro rfl
    obtain ⟨-, hdigits, hvalue⟩ := Text.decimal?_eq_some_iff.1 hcs.value
    obtain ⟨-, hdigits', hvalue'⟩ := Text.decimal?_eq_some_iff.1 hds.value
    exact Text.eq_of_decimal_eq hdigits hdigits' (hcs.length.trans hds.length.symm)
      (hvalue.trans hvalue'.symm)

theorem IsField.eq_pair (h : IsField 2 n cs) : ∃ a b, cs = [a, b] := by
  match cs, h.length with
  | [a, b], _ => exact ⟨a, b, rfl⟩

theorem append_lt_append_iff {cs' ds' : List Char} (hlength : cs.length = ds.length) :
    cs ++ cs' < ds ++ ds' ↔ cs < ds ∨ cs = ds ∧ cs' < ds' := by
  induction cs generalizing ds with
  | nil =>
    rw [List.eq_nil_of_length_eq_zero hlength.symm]
    simp
  | cons c cs ih =>
    cases ds with
    | nil => cases hlength
    | cons d ds =>
      rw [List.cons_append, List.cons_append, List.cons_lt_cons_iff, List.cons_lt_cons_iff,
        ih (Nat.succ.inj hlength), List.cons.injEq]
      grind

/-- Of two texts that begin with such a field each, the field decides first. -/
theorem IsField.append_lt_iff {cs' ds' : List Char} (hcs : IsField width m cs)
    (hds : IsField width n ds) : cs ++ c :: cs' < ds ++ c :: ds' ↔ m < n ∨ m = n ∧ cs' < ds' := by
  rw [append_lt_append_iff (hcs.length.trans hds.length.symm), hcs.lt_iff hds, hcs.eq_iff hds,
    List.cons_lt_cons_iff]
  simp only [Std.lt_irrefl, false_or, true_and]

theorem decimal_zeros_append (k : Nat) (cs : List Char) :
    Text.decimal (List.replicate k '0' ++ cs) = Text.decimal cs := by
  induction k with
  | zero => rfl
  | succ k ih =>
    rw [List.replicate_succ, List.cons_append, Text.decimal_cons, Nat.sub_self, Nat.mul_zero,
      Nat.zero_add, ih]

theorem isField_padded (hwidth : 0 < width) (hn : n < Nat.pow 10 width) :
    IsField width n (padded width n) := by
  have hlength : (Nat.toDigits 10 n).length ≤ width :=
    (Nat.length_toDigits_le_iff (by decide) hwidth).2 hn
  have hdigits : ∀ c ∈ padded width n, c.isDigit = true := by
    intro c hc
    rcases List.mem_append.1 hc with hzero | hdigit
    · rw [List.eq_of_mem_replicate hzero]
      decide
    · exact Text.isDigit_of_mem_toDigits n c hdigit
  refine ⟨?_, Text.decimal?_eq_some_iff.2 ⟨?_, hdigits, ?_⟩⟩
  · rw [padded, List.length_append, List.length_replicate, Nat.sub_add_cancel hlength]
  · exact List.append_ne_nil_of_right_ne_nil _ Nat.toDigits_ne_nil
  · rw [padded, decimal_zeros_append, Text.decimal_toDigits]

end Field

/-! ## Dates with a time of day -/

structure DateTime where
  date : Date
  hour : Nat
  minute : Nat
  second : Nat

namespace DateTime

structure Exists (d : DateTime) : Prop where
  date : d.date.Exists
  hour_lt : d.hour < 24
  minute_lt : d.minute < 60
  second_lt : d.second < 60

/-- The seconds from 1970-01-01T00:00:00. -/
def secs (d : DateTime) : Int := d.date.toDays * 86400 + d.hour * 3600 + d.minute * 60 + d.second

def ofSecs (secs : Int) : DateTime where
  date := Date.ofDays (secs.fdiv 86400)
  hour := (secs.fmod 86400).toNat / 3600
  minute := (secs.fmod 86400).toNat / 60 % 60
  second := (secs.fmod 86400).toNat % 60

def Before (d e : DateTime) : Prop :=
  d.date.Before e.date ∨ d.date = e.date ∧ (d.hour < e.hour ∨ d.hour = e.hour ∧
    (d.minute < e.minute ∨ d.minute = e.minute ∧ d.second < e.second))

/-- The form of RFC 3339, in universal time and without parts of a second. -/
def Written (d : DateTime) (cs : List Char) : Prop :=
  0 ≤ d.date.year ∧ ∃ year month day hour minute second,
    IsField 4 d.date.year.toNat year ∧ IsField 2 d.date.month month ∧ IsField 2 d.date.day day ∧
    IsField 2 d.hour hour ∧ IsField 2 d.minute minute ∧ IsField 2 d.second second ∧
    cs = year ++ '-' :: (month ++ '-' :: (day ++ 'T' ::
      (hour ++ ':' :: (minute ++ ':' :: (second ++ ['Z'])))))

variable {d e : DateTime} {cs ds : List Char}

theorem ofSecs_exists (secs : Int) : (ofSecs secs).Exists := by
  refine ⟨Date.ofDays_exists _, ?_, ?_, ?_⟩ <;> dsimp only [ofSecs]
  · rw [Int.fmod_eq_emod_of_nonneg _ (by decide)]
    omega
  · omega
  · omega

theorem secs_ofSecs (secs : Int) : (ofSecs secs).secs = secs := by
  dsimp only [DateTime.secs, ofSecs]
  rw [Date.toDays_ofDays, Int.fmod_eq_emod_of_nonneg _ (by decide),
    Int.fdiv_eq_ediv_of_nonneg _ (by decide)]
  omega

theorem before_iff (hd : d.Exists) (he : e.Exists) : d.Before e ↔ d.secs < e.secs := by
  obtain ⟨hdate, hhour, hminute, hsecond⟩ := hd
  obtain ⟨hdate', hhour', hminute', hsecond'⟩ := he
  rw [Before, Date.before_iff hdate hdate', ← Date.toDays_inj hdate hdate', secs, secs]
  omega

theorem Written.lt_iff (hcs : d.Written cs) (hds : e.Written ds) : cs < ds ↔ d.Before e := by
  obtain ⟨hnonneg, _, _, _, _, _, _, hyear, hmonth, hday, hhour, hminute, hsecond, rfl⟩ := hcs
  obtain ⟨hnonneg', _, _, _, _, _, _, hyear', hmonth', hday', hhour', hminute', hsecond', rfl⟩ :=
    hds
  rw [hyear.append_lt_iff hyear', hmonth.append_lt_iff hmonth', hday.append_lt_iff hday',
    hhour.append_lt_iff hhour', hminute.append_lt_iff hminute', hsecond.append_lt_iff hsecond',
    Before, Date.Before, Date.eq_iff]
  simp only [List.not_lt_nil, and_false, or_false]
  omega

end DateTime

/-! ## Instants -/

namespace Instant

variable {t u : Instant} {d : DateTime} {cs : List Char}

/-- The text is a timestamp for the instant. -/
def WrittenAs (t : Instant) (cs : List Char) : Prop :=
  ∃ d : DateTime, d.Exists ∧ d.Written cs ∧ t.secs = d.secs ∧ t.nanos = 0

theorem writtenAs_of_ofChars? (h : ofChars? cs = some t) : t.WrittenAs cs := by
  unfold ofChars? at h
  dsimp only at h
  split at h
  · rename_i m₁ m₂ d₁ d₂ h₁ h₂ n₁ n₂ s₁ s₂ hrest
    simp only [Option.bind_eq_bind, Option.bind_eq_some_iff] at h
    obtain ⟨year, hyear, month, hmonth, day, hday, hour, hhour, minute, hminute, second, hsecond,
      h⟩ := h
    rw [Option.ite_none_right_eq_some, of?_eq_some_iff] at h
    obtain ⟨⟨hdate, hhour_lt, hminute_lt, hsecond_lt⟩, hsecs, hnanos⟩ := h
    have hcs := (List.take_append_drop 4 cs).symm
    -- there is a rest, so the year has all of its digits
    have hlength : (cs.take 4).length = 4 := by
      have hcount := congrArg List.length hrest
      rw [List.length_drop] at hcount
      rw [List.length_take]
      simp only [List.length_cons] at hcount
      omega
    refine ⟨⟨⟨year, month, day⟩, hour, minute, second⟩,
      ⟨Date.ofDays_toDays_iff.1 hdate, hhour_lt, hminute_lt, hsecond_lt⟩,
      ⟨Int.natCast_nonneg year, _, _, _, _, _, _, ⟨hlength, hyear⟩, ⟨rfl, hmonth⟩, ⟨rfl, hday⟩,
        ⟨rfl, hhour⟩, ⟨rfl, hminute⟩, ⟨rfl, hsecond⟩, ?_⟩, hsecs, hnanos⟩
    exact hcs.trans (congrArg (cs.take 4 ++ ·) hrest)
  · cases h

theorem WrittenAs.ofChars? (h : t.WrittenAs cs) : ofChars? cs = some t := by
  obtain ⟨d, hd, hcs, hsecs, hnanos⟩ := h
  obtain ⟨⟨year, month, day⟩, hour, minute, second⟩ := d
  obtain ⟨hdate, hhour_lt, hminute_lt, hsecond_lt⟩ := hd
  obtain ⟨hnonneg, _, _, _, _, _, _, hyear, hmonth, hday, hhour, hminute, hsecond, rfl⟩ := hcs
  obtain ⟨m₁, m₂, rfl⟩ := hmonth.eq_pair
  obtain ⟨d₁, d₂, rfl⟩ := hday.eq_pair
  obtain ⟨h₁, h₂, rfl⟩ := hhour.eq_pair
  obtain ⟨n₁, n₂, rfl⟩ := hminute.eq_pair
  obtain ⟨s₁, s₂, rfl⟩ := hsecond.eq_pair
  obtain ⟨year, rfl⟩ := Int.eq_ofNat_of_zero_le hnonneg
  simp only [ofChars?, List.take_left' hyear.length, List.drop_left' hyear.length,
    List.cons_append, List.nil_append, hyear.value, hmonth.value, hday.value, hhour.value,
    hminute.value, hsecond.value, Option.bind_eq_bind, Option.bind_some, Int.toNat_natCast]
  rw [if_pos ⟨Date.ofDays_toDays_iff.2 hdate, hhour_lt, hminute_lt, hsecond_lt⟩, of?_eq_some_iff]
  exact ⟨hsecs, hnanos⟩

/-- A text is read exactly if it is a timestamp in the form of RFC 3339. -/
theorem ofChars?_eq_some_iff : ofChars? cs = some t ↔ t.WrittenAs cs :=
  ⟨writtenAs_of_ofChars?, WrittenAs.ofChars?⟩

/-- The date and the time of day at which the second of `t` begins. -/
def dateTime (t : Instant) : DateTime := DateTime.ofSecs t.secs

theorem dateTime_exists (t : Instant) : t.dateTime.Exists := DateTime.ofSecs_exists _

theorem secs_dateTime (t : Instant) : t.dateTime.secs = t.secs := DateTime.secs_ofSecs _

/-- The last whole second that is not later, unless `t` lies in a leap second. -/
def wholeSecond (t : Instant) : Instant where
  secs := t.secs
  inCalendar := t.inCalendar
  nanos_lt := zero_nanos_lt
  leap := not_leap _

/-- The other instant is this one rounded down to the second. -/
structure RoundsDown (t u : Instant) : Prop where
  nanos : u.nanos = 0
  le : u.position ≤ t.position
  lt : t.position < u.position + 1000000000

theorem roundsDown_wholeSecond (h : t.nanos < 1000000000) : t.RoundsDown t.wholeSecond := by
  have hposition : t.wholeSecond.position = t.secs * 1000000000 := Int.add_zero _
  refine ⟨rfl, ?_, ?_⟩ <;> rw [hposition, position] <;> omega

def HasPlainYear (t : Instant) : Prop :=
  0 ≤ t.dateTime.date.year ∧ t.dateTime.date.year ≤ 9999

instance (t : Instant) : Decidable t.HasPlainYear := inferInstanceAs (Decidable (_ ∧ _))

/-- The instant can be written with a year of four digits and a second below 60. -/
structure Plain (t : Instant) : Prop where
  year : t.HasPlainYear
  nanos_lt : t.nanos < 1000000000

theorem Plain.written (h : t.Plain) : t.dateTime.Written t.chars := by
  obtain ⟨⟨-, hmonth, -, hday⟩, hhour, hminute, hsecond⟩ := t.dateTime_exists
  have hlength := (Date.monthLength_bounds t.dateTime.date.year t.dateTime.date.month).2
  obtain ⟨hyear, hyear'⟩ := h.year
  have htwo : Nat.pow 10 2 = 100 := rfl
  have hfour : Nat.pow 10 4 = 10000 := rfl
  refine ⟨hyear, _, _, _, _, _, _, isField_padded (by decide) (by omega),
    isField_padded (by decide) (by omega), isField_padded (by decide) (by omega),
    isField_padded (by decide) (by omega), isField_padded (by decide) (by omega),
    isField_padded (by decide) (by omega), ?_⟩
  have hdate : (Date.ofDays (t.secs.fdiv 86400)) = t.dateTime.date := rfl
  rw [chars, hdate, Date.chars, yearText, if_pos ⟨hyear, hyear'⟩, clockText,
    Nat.div_eq_of_lt h.nanos_lt]
  simp only [List.append_assoc, List.cons_append, Nat.add_zero]
  rfl

theorem Plain.writtenAs (h : t.Plain) : t.wholeSecond.WrittenAs t.timestamp.toList := by
  rw [timestamp, String.toList_ofList]
  exact ⟨t.dateTime, t.dateTime_exists, h.written, t.secs_dateTime.symm, rfl⟩

/-- Reading takes back what was written, rounded down to the second. -/
theorem Plain.ofChars?_timestamp (h : t.Plain) :
    Instant.ofChars? t.timestamp.toList = some t.wholeSecond := h.writtenAs.ofChars?

/-- Timestamps come in the order of their seconds. -/
theorem Plain.timestamp_lt_iff (ht : t.Plain) (hu : u.Plain) :
    t.timestamp < u.timestamp ↔ t.secs < u.secs := by
  have hchars : t.timestamp < u.timestamp ↔ t.chars < u.chars := by
    rw [timestamp, timestamp, String.lt_iff, String.toList_ofList, String.toList_ofList]
  rw [hchars, ht.written.lt_iff hu.written, DateTime.before_iff t.dateTime_exists u.dateTime_exists,
    secs_dateTime, secs_dateTime]

end Instant
end NodeLabels.Calendar
