import Mathlib.Algebra.GroupWithZero.Nat
import Mathlib.Data.List.TakeWhile
import NodeLabels.Proofs.Text.Digits
import NodeLabels.Span.Human
/-!
# Spans are read as they were written

A span is written as amounts of ever smaller units. Each of them is read back as the same amount
(`amount?_chars_append`), a line of them as the same list (`amounts?_line`), and adding them up
comes to the span (`ofHuman?_human`), over the whole range of 64-bit seconds.
-/

namespace NodeLabels.Span

/-! ## The pieces of a span -/

/-- The unit is found by the name, and the name ends where no letter follows. -/
def TimeUnit.IsName (unit : TimeUnit) (name : String) : Prop :=
  name.toList.all isUnitChar = true ∧ ofName? name.toList = some unit

instance (unit : TimeUnit) (name : String) : Decidable (unit.IsName name) :=
  inferInstanceAs (Decidable (_ ∧ _))

/-- An amount that is written: how many of a unit, under one of its names. -/
structure Piece where
  count : Nat
  name : String
  unit : TimeUnit

namespace Piece

def chars (p : Piece) : List Char := Nat.toDigits 10 p.count ++ p.name.toList

def text (p : Piece) : String := s!"{p.count}{p.name}"

def amount (p : Piece) : Amount := { whole := Nat.toDigits 10 p.count, unit := p.unit }

def nanos (p : Piece) : Nat := p.count * p.unit.nanos

@[simp] theorem toList_text (p : Piece) : p.text.toList = p.chars := by
  simp only [text, chars, String.toList_append, Nat.toString_eq_ofList_toDigits,
    String.toList_ofList]
  rfl

/-- The piece is named by its unit, and if the unit is less than a second, so is the piece. -/
structure IsProper (p : Piece) : Prop where
  isName : p.unit.IsName p.name
  nanos_lt : p.unit.nanos < 1000000000 → p.nanos < 1000000000

end Piece

/-- The amount as a piece, left out when it is zero. -/
def amountPiece (n : Nat) (name : String) (unit : TimeUnit) : List Piece :=
  if n = 0 then [] else [⟨n, name, unit⟩]

/-- As `amountPiece`, with the plural of the name from two on. -/
def countedPiece (n : Nat) (name : String) (unit : TimeUnit) : List Piece :=
  if n = 0 then [] else if n = 1 then [⟨n, name, unit⟩] else [⟨n, name ++ "s", unit⟩]

def pieces (s : Span) : List Piece :=
  let ofYear := s.secs % 31557600
  let ofMonth := ofYear % 2630016
  let ofDay := ofMonth % 86400
  countedPiece (s.secs / 31557600) "year" .year ++ countedPiece (ofYear / 2630016) "month" .month ++
    countedPiece (ofMonth / 86400) "day" .day ++ amountPiece (ofDay / 3600) "h" .hour ++
    amountPiece (ofDay % 3600 / 60) "m" .minute ++ amountPiece (ofDay % 60) "s" .second ++
    amountPiece (s.nanos / 1000000) "ms" .millisecond ++
    amountPiece (s.nanos / 1000 % 1000) "us" .microsecond ++
    amountPiece (s.nanos % 1000) "ns" .nanosecond

section

variable {n : Nat} {name : String} {unit : TimeUnit}

theorem map_text_amountPiece : (amountPiece n name unit).map Piece.text = amountText n name := by
  unfold amountPiece amountText
  split <;> simp [Piece.text]

theorem map_text_countedPiece : (countedPiece n name unit).map Piece.text = countedText n name := by
  unfold countedPiece countedText
  split
  · rfl
  · split
    · rfl
    · simp only [Piece.text, List.map_cons, List.map_nil, String.append_assoc]
      rfl

@[simp] theorem sum_nanos_amountPiece :
    ((amountPiece n name unit).map Piece.nanos).sum = n * unit.nanos := by
  unfold amountPiece
  split <;> simp_all [Piece.nanos]

@[simp] theorem sum_nanos_countedPiece :
    ((countedPiece n name unit).map Piece.nanos).sum = n * unit.nanos := by
  unfold countedPiece
  split
  · simp_all
  · split <;> simp [Piece.nanos]

theorem isProper_of_mem_amountPiece (hname : unit.IsName name)
    (h : unit.nanos < 1000000000 → n * unit.nanos < 1000000000) :
    ∀ p ∈ amountPiece n name unit, p.IsProper := by
  unfold amountPiece
  split
  · simp
  · exact List.forall_mem_singleton.2 ⟨hname, h⟩

theorem isProper_of_mem_countedPiece (hname : unit.IsName name)
    (hplural : unit.IsName (name ++ "s"))
    (h : unit.nanos < 1000000000 → n * unit.nanos < 1000000000) :
    ∀ p ∈ countedPiece n name unit, p.IsProper := by
  unfold countedPiece
  split
  · simp
  · split
    · exact List.forall_mem_singleton.2 ⟨hname, h⟩
    · exact List.forall_mem_singleton.2 ⟨hplural, h⟩

end

theorem amounts_eq_map_text (s : Span) : s.amounts = s.pieces.map Piece.text := by
  simp only [amounts, pieces, List.map_append, map_text_amountPiece, map_text_countedPiece]

theorem sum_nanos_pieces (s : Span) : (s.pieces.map Piece.nanos).sum = s.toNanos := by
  simp only [pieces, List.map_append, List.sum_append, sum_nanos_amountPiece,
    sum_nanos_countedPiece, TimeUnit.nanos, toNanos]
  omega

theorem isProper_of_mem_pieces (s : Span) : ∀ p ∈ s.pieces, p.IsProper := by
  have hnanos := s.nanos_lt
  simp only [pieces, List.forall_mem_append]
  refine ⟨⟨⟨⟨⟨⟨⟨⟨?year, ?month⟩, ?day⟩, ?hour⟩, ?minute⟩, ?second⟩, ?milli⟩, ?micro⟩, ?nano⟩
  case year | month | day =>
    exact isProper_of_mem_countedPiece (by decide +kernel) (by decide +kernel)
      fun h => absurd h (by decide)
  case hour | minute | second =>
    exact isProper_of_mem_amountPiece (by decide +kernel) fun h => absurd h (by decide)
  case milli | micro | nano =>
    refine isProper_of_mem_amountPiece (by decide +kernel) fun _ => ?_
    simp only [TimeUnit.nanos]
    omega

/-! ## Reading a piece -/

/-- A letter of a name ends the digits in front of it. -/
theorem not_isPart_of_isUnitChar {c : Char} (h : isUnitChar c = true) :
    (c.isDigit || Text.isBlank c) = false ∧ c ≠ '.' := by
  have hrange : (97 ≤ c.toNat ∧ c.toNat ≤ 122) ∨ (65 ≤ c.toNat ∧ c.toNat ≤ 90) ∨ c.toNat = 181 := by
    simp only [isUnitChar, Char.le_def, UInt32.le_iff_toNat_le, Bool.or_eq_true, Bool.and_eq_true,
      decide_eq_true_eq] at h
    rcases h with (h | h) | rfl
    · exact .inl h
    · exact .inr (.inl h)
    · exact .inr (.inr rfl)
  refine ⟨Bool.or_eq_false_iff.2 ⟨?_, ?_⟩, ?_⟩
  · rw [← Bool.not_eq_true]
    intro hdigit
    have hdigits := Text.toNat_of_isDigit hdigit
    omega
  · rw [← Bool.not_eq_true]
    simp only [Text.isBlank, Bool.or_eq_true, Bool.and_eq_true, decide_eq_true_eq]
    omega
  · rintro rfl
    revert hrange
    decide

theorem digitsFrom_toDigits_append (n : Nat) {rest : List Char}
    (h : ∀ c ∈ rest.head?, (c.isDigit || Text.isBlank c) = false) :
    digitsFrom (Nat.toDigits 10 n ++ rest) = (Nat.toDigits 10 n, rest) := by
  have hdigits := Text.isDigit_of_mem_toDigits n
  have hparts : ∀ c ∈ Nat.toDigits 10 n, (c.isDigit || Text.isBlank c) = true := fun c hc => by
    rw [hdigits c hc, Bool.true_or]
  have hrest : rest.takeWhile (fun c => c.isDigit || Text.isBlank c) = [] ∧
      rest.dropWhile (fun c => c.isDigit || Text.isBlank c) = rest := by
    cases rest with
    | nil => exact ⟨rfl, rfl⟩
    | cons c cs =>
      have hc := h c rfl
      exact ⟨List.takeWhile_cons_of_neg (by simp [hc]), List.dropWhile_cons_of_neg (by simp [hc])⟩
  simp only [digitsFrom, List.takeWhile_append_of_pos hparts, List.dropWhile_append_of_pos hparts,
    hrest.1, hrest.2, List.append_nil, List.filter_eq_self.2 hdigits]

theorem TimeUnit.IsName.ne_nil {unit : TimeUnit} {name : String} (h : unit.IsName name) :
    name.toList ≠ [] := by
  intro hnil
  have hfound := h.2
  rw [hnil, show TimeUnit.ofName? [] = none by decide] at hfound
  cases hfound

theorem amount?_chars_append {p : Piece} (h : p.IsProper) (rest : List Char)
    (hrest : ∀ c ∈ rest.head?, isUnitChar c = false) :
    amount? (p.chars ++ rest) = some (p.amount, rest) := by
  have hletters := List.all_eq_true.1 h.isName.1
  have hname : (p.name.toList ++ rest).takeWhile isUnitChar = p.name.toList ∧
      (p.name.toList ++ rest).dropWhile isUnitChar = rest := by
    rw [List.takeWhile_append_of_pos hletters, List.dropWhile_append_of_pos hletters]
    cases rest with
    | nil => simp
    | cons c cs => simp [hrest c rfl]
  obtain ⟨c, cs, hcs⟩ := List.exists_cons_of_ne_nil h.isName.ne_nil
  obtain ⟨hpart, hpoint⟩ := not_isPart_of_isUnitChar (hletters c (by simp [hcs]))
  have hdigits : digitsFrom (p.chars ++ rest) =
      (Nat.toDigits 10 p.count, p.name.toList ++ rest) := by
    rw [Piece.chars, List.append_assoc]
    exact digitsFrom_toDigits_append p.count (by simpa [hcs] using hpart)
  simp only [amount?, hdigits, if_neg Nat.toDigits_ne_nil]
  split
  · next more heq => exact absurd (List.cons.inj (hcs ▸ heq)).1 hpoint
  · simp [hname, h.isName.2, Piece.amount]

/-! ## Reading a list of pieces -/

/-- The pieces in one text. -/
def line (ps : List Piece) : List Char := [' '].intercalate (ps.map Piece.chars)

theorem line_cons_cons (p q : Piece) (ps : List Piece) :
    line (p :: q :: ps) = p.chars ++ ' ' :: line (q :: ps) := by
  simp [line, List.intercalate_cons_cons]

theorem line_eq_digit_cons (p : Piece) (ps : List Piece) :
    ∃ d more, line (p :: ps) = d :: more ∧ d.isDigit = true := by
  obtain ⟨d, ds, hds⟩ := List.exists_cons_of_ne_nil (Nat.toDigits_ne_nil (n := p.count) (b := 10))
  have hd : d.isDigit = true := Text.isDigit_of_mem_toDigits p.count d (by simp [hds])
  cases ps with
  | nil => exact ⟨d, ds ++ p.name.toList, by simp [line, Piece.chars, hds], hd⟩
  | cons q ps =>
    refine ⟨d, ds ++ p.name.toList ++ ' ' :: line (q :: ps), ?_, hd⟩
    simp [line_cons_cons, Piece.chars, hds]

theorem trimLeft_line (ps : List Piece) : Text.trimLeft (line ps) = line ps := by
  cases ps with
  | nil => rfl
  | cons p ps =>
    obtain ⟨d, more, hline, hd⟩ := line_eq_digit_cons p ps
    rw [hline, Text.trimLeft, List.dropWhile_cons_of_neg (by simp [Text.not_isBlank_of_isDigit hd])]

theorem length_le_length_line (ps : List Piece) : ps.length ≤ (line ps).length := by
  induction ps with
  | nil => simp
  | cons p ps ih =>
    cases ps with
    | nil =>
      obtain ⟨d, more, hline, -⟩ := line_eq_digit_cons p []
      simp [hline]
    | cons q ps =>
      rw [line_cons_cons]
      simp only [List.length_cons, List.length_append] at ih ⊢
      omega

theorem amounts?_line {p : Piece} {ps : List Piece} (h : ∀ q ∈ p :: ps, q.IsProper) {fuel : Nat}
    (hfuel : ps.length < fuel) :
    amounts? fuel (line (p :: ps)) = some ((p :: ps).map Piece.amount) := by
  obtain ⟨fuel, rfl⟩ := Nat.exists_eq_succ_of_ne_zero (Nat.ne_of_gt (Nat.zero_lt_of_lt hfuel))
  induction ps generalizing p fuel with
  | nil =>
    have hread := amount?_chars_append (h p (by simp)) [] nofun
    rw [List.append_nil] at hread
    simp [line, amounts?, hread]
  | cons q ps ih =>
    have hread := amount?_chars_append (h p (by simp)) (' ' :: line (q :: ps))
      (by rintro _ ⟨⟩; decide)
    have hlonger := Nat.lt_of_succ_lt_succ hfuel
    obtain ⟨fuel, rfl⟩ := Nat.exists_eq_succ_of_ne_zero (Nat.ne_of_gt (Nat.zero_lt_of_lt hlonger))
    have hrest := ih (fun r hr => h r (List.mem_cons_of_mem _ hr)) fuel hlonger
    obtain ⟨d, more, hline, hd⟩ := line_eq_digit_cons q ps
    have htrim : Text.trimLeft (' ' :: line (q :: ps)) = d :: more :=
      (trimLeft_line (q :: ps)).trans hline
    rw [hline] at hrest
    have hblank : Text.isBlank ' ' = true := by decide
    rw [line_cons_cons, amounts?, hread]
    simp [hblank, htrim, hd, hrest]

/-! ## Adding up -/

theorem below64?_of_lt {n : Nat} (h : n < 18446744073709551616) : below64? n = some n := if_pos h

theorem exists_add? (s : Span) (secs nanos : Nat) (hnanos : nanos ≤ 1000000000)
    (h : s.toNanos + (secs * 1000000000 + nanos) < 18446744073709551616 * 1000000000) :
    ∃ t, s.add? secs nanos = some t ∧ t.toNanos = s.toNanos + (secs * 1000000000 + nanos) := by
  have hs := s.nanos_lt
  simp only [toNanos] at h ⊢
  have hsum : s.nanos + nanos < 18446744073709551616 := by omega
  have hsecs : secs + (s.nanos + nanos) / 1000000000 < 18446744073709551616 := by omega
  have hrange : s.secs + (secs + (s.nanos + nanos) / 1000000000) < 18446744073709551616 ∧
      (s.nanos + nanos) % 1000000000 < 1000000000 := by omega
  simp only [add?, below64?, if_pos hsum, if_pos hsecs, of?, dif_pos hrange, Option.bind_eq_bind,
    Option.bind_some, Option.some.injEq]
  exact ⟨_, rfl, by simp only; omega⟩

theorem wholePart?_amount {p : Piece} (h : p.IsProper)
    (hrange : p.nanos < 18446744073709551616 * 1000000000) :
    ∃ secs nanos, p.amount.wholePart? = some (secs, nanos) ∧ nanos ≤ 1000000000 ∧
      secs * 1000000000 + nanos = p.nanos := by
  obtain ⟨count, name, unit⟩ := p
  have hsmall := h.nanos_lt
  simp only [Piece.nanos] at hrange hsmall ⊢
  by_cases hunit : unit.nanos < 1000000000
  · have hcount : count ≤ count * unit.nanos :=
      Nat.le_mul_of_pos_right count (by cases unit <;> decide)
    have hlt := hsmall hunit
    have hwhole : below64? count = some count := below64?_of_lt (by omega)
    have hproduct : below64? (count * unit.nanos) = some (count * unit.nanos) :=
      below64?_of_lt (by omega)
    refine ⟨0, count * unit.nanos, ?_, by omega, by omega⟩
    simp [Amount.wholePart?, Piece.amount, Text.decimal_toDigits, hwhole, hunit, hproduct]
  · have hseconds : unit.nanos = unit.nanos / 1000000000 * 1000000000 := by
      cases unit <;> first | rfl | exact absurd (by decide) hunit
    have hvalue : count * unit.nanos = count * (unit.nanos / 1000000000) * 1000000000 := by
      rw [Nat.mul_assoc, ← hseconds]
    have hcount : count ≤ count * (unit.nanos / 1000000000) :=
      Nat.le_mul_of_pos_right count (by omega)
    have hwhole : below64? count = some count := below64?_of_lt (by omega)
    have hproduct : below64? (count * (unit.nanos / 1000000000)) =
        some (count * (unit.nanos / 1000000000)) := below64?_of_lt (by omega)
    refine ⟨count * (unit.nanos / 1000000000), 0, ?_, by omega, by omega⟩
    simp [Amount.wholePart?, Piece.amount, Text.decimal_toDigits, hwhole, hunit, hproduct]

@[simp] theorem fractionPart?_amount (p : Piece) : p.amount.fractionPart? = some 0 := rfl

theorem exists_addAmount? {s : Span} {p : Piece} (h : p.IsProper)
    (hrange : s.toNanos + p.nanos < 18446744073709551616 * 1000000000) :
    ∃ t, addAmount? s p.amount = some t ∧ t.toNanos = s.toNanos + p.nanos := by
  obtain ⟨secs, nanos, hwhole, hnanos, hvalue⟩ := wholePart?_amount h (by omega)
  obtain ⟨t, ht, hsum⟩ := exists_add? s secs nanos hnanos (by omega)
  obtain ⟨u, hu, hsame⟩ := exists_add? t 0 0 (by omega) (by omega)
  refine ⟨u, ?_, by omega⟩
  simp [addAmount?, hwhole, ht, hu]

/-- The sum stays in range as long as the whole of it does. -/
theorem exists_foldlM_addAmount? {ps : List Piece} (h : ∀ p ∈ ps, p.IsProper) {s : Span}
    (hrange : s.toNanos + (ps.map Piece.nanos).sum < 18446744073709551616 * 1000000000) :
    ∃ t, (ps.map Piece.amount).foldlM addAmount? s = some t ∧
      t.toNanos = s.toNanos + (ps.map Piece.nanos).sum := by
  induction ps generalizing s with
  | nil => exact ⟨s, rfl, by simp⟩
  | cons p ps ih =>
    obtain ⟨hp, hps⟩ := List.forall_mem_cons.1 h
    simp only [List.map_cons, List.sum_cons] at hrange ⊢
    obtain ⟨t, ht, hadded⟩ := exists_addAmount? (s := s) hp (by omega)
    obtain ⟨u, hu, hsum⟩ := ih hps (s := t) (by omega)
    refine ⟨u, ?_, by omega⟩
    simp [List.foldlM_cons, ht, hu]

/-! ## The whole text -/

variable {s : Span}

theorem toList_human (h : s.isZero = false) : s.human.toList = line s.pieces := by
  have hmap : (s.pieces.map Piece.text).map String.toList = s.pieces.map Piece.chars := by simp
  rw [human, h, if_neg Bool.false_ne_true, amounts_eq_map_text, String.toList_intercalate, hmap]
  rfl

theorem pieces_ne_nil (h : s.isZero = false) : s.pieces ≠ [] := by
  intro hnil
  have hsum := sum_nanos_pieces s
  rw [hnil] at hsum
  rw [isZero_iff.2 hsum.symm] at h
  cases h

theorem amounts?_human (h : s.isZero = false) :
    amounts? (s.human.length + 1) (Text.trimLeft s.human.toList) =
      some (s.pieces.map Piece.amount) := by
  obtain ⟨p, ps, hpieces⟩ := List.exists_cons_of_ne_nil (pieces_ne_nil h)
  have hproper := isProper_of_mem_pieces s
  have hlength := length_le_length_line s.pieces
  rw [← String.length_toList, toList_human h, trimLeft_line]
  rw [hpieces] at hproper hlength ⊢
  exact amounts?_line hproper (by rw [List.length_cons] at hlength; omega)

/-- A span is read as it was written. -/
theorem ofHuman?_human (s : Span) : ofHuman? s.human = some s := by
  cases hzero : s.isZero with
  | true =>
    have hs : s = zero := ext_toNanos (isZero_iff.1 hzero)
    subst hs
    decide +kernel
  | false =>
    have hread := amounts?_human hzero
    have hword : s.human ≠ "0" := by
      intro hword
      rw [hword] at hread
      have hnone : (amounts? ("0".length + 1) (Text.trimLeft "0".toList)).isNone = true := by
        decide +kernel
      rw [hread] at hnone
      cases hnone
    have hrange : zero.toNanos + (s.pieces.map Piece.nanos).sum <
        18446744073709551616 * 1000000000 := by
      have hsecs := s.secs_lt
      have hnanos := s.nanos_lt
      rw [sum_nanos_pieces, toNanos_zero, toNanos]
      omega
    obtain ⟨t, hfold, ht⟩ := exists_foldlM_addAmount? (isProper_of_mem_pieces s) hrange
    rw [sum_nanos_pieces, toNanos_zero, Nat.zero_add] at ht
    rw [ofHuman?, if_neg hword, hread, Option.bind_eq_bind, Option.bind_some, hfold, ext_toNanos ht]

end NodeLabels.Span
