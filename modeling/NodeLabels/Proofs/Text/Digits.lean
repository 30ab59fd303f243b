import NodeLabels.Text.Blank
import NodeLabels.Text.Digits
/-!
# Decimal digits

The digits of a number are read as that number, and there is no zero in front of them. Numbers with
the same count of digits, zeros in front included, come in the order of their texts
(`lt_iff_decimal_lt`).
-/

namespace NodeLabels.Text

variable {c : Char} {n : Nat}

theorem toNat_of_isDigit (h : c.isDigit = true) : 48 ≤ c.toNat ∧ c.toNat ≤ 57 := by
  simpa [Char.isDigit, UInt32.le_iff_toNat_le] using h

theorem not_isBlank_of_isDigit (h : c.isDigit = true) : isBlank c = false := by
  have hdigit := toNat_of_isDigit h
  rw [← Bool.not_eq_true]
  simp only [isBlank, Bool.or_eq_true, Bool.and_eq_true, decide_eq_true_eq]
  omega

theorem digit?_of_isDigit (h : c.isDigit = true) : digit? 10 c = some (c.toNat - '0'.toNat) := by
  have hdigit := toNat_of_isDigit h
  have hrange : '0' ≤ c ∧ c ≤ '9' := by
    simpa [Char.le_def, UInt32.le_iff_toNat_le] using hdigit
  have hvalue : c.toNat - '0'.toNat < 10 := by
    have : '0'.toNat = 48 := rfl
    omega
  rw [digit?, if_pos hrange, if_pos hvalue]

theorem number?_of_isDigit {cs : List Char} (h : ∀ c ∈ cs, c.isDigit = true) :
    number? 10 cs = some (decimal cs) := by
  have hfold (m : Nat) : cs.foldlM (fun n c => (digit? 10 c).map (10 * n + ·)) m =
      some (Nat.ofDigitChars 10 cs m) := by
    induction cs generalizing m with
    | nil => rfl
    | cons c cs ih =>
      obtain ⟨hc, hcs⟩ := List.forall_mem_cons.1 h
      simp [List.foldlM_cons, digit?_of_isDigit hc, ih hcs, Nat.ofDigitChars_cons]
  exact hfold 0

theorem isDigit_of_mem_toDigits (n : Nat) : ∀ c ∈ Nat.toDigits 10 n, c.isDigit = true :=
  fun _ hc => Nat.isDigit_of_mem_toDigits (by decide) (by decide) hc

theorem number?_toDigits (n : Nat) : number? 10 (Nat.toDigits 10 n) = some n := by
  rw [number?_of_isDigit (isDigit_of_mem_toDigits n), decimal_toDigits]

theorem head?_toDigits (h : 0 < n) : (Nat.toDigits 10 n).head? ≠ some '0' := by
  induction n using Nat.strongRecOn with
  | ind n ih =>
    by_cases hsmall : n < 10
    · rw [Nat.toDigits_of_lt_base hsmall]
      have hall : ∀ m < 10, 0 < m → [m.digitChar].head? ≠ some '0' := by decide
      exact hall n hsmall h
    · have hfront := ih (n / 10) (by omega) (by omega)
      rw [Nat.toDigits_of_base_le (by decide) (by omega), List.head?_append]
      obtain ⟨d, ds, hds⟩ :=
        List.exists_cons_of_ne_nil (Nat.toDigits_ne_nil (n := n / 10) (b := 10))
      rwa [hds] at hfront ⊢

/-! ## Numbers as text of one length -/

theorem decimal_cons (c : Char) (cs : List Char) :
    decimal (c :: cs) = Nat.pow 10 cs.length * (c.toNat - '0'.toNat) + decimal cs := by
  rw [decimal, Nat.ofDigitChars_cons, Nat.ofDigitChars_eq_ofDigitChars_zero, Nat.mul_zero,
    Nat.zero_add]
  rfl

theorem decimal_lt {cs : List Char} (h : ∀ c ∈ cs, c.isDigit = true) :
    decimal cs < Nat.pow 10 cs.length := by
  induction cs with
  | nil => decide
  | cons c cs ih =>
    obtain ⟨hc, hcs⟩ := List.forall_mem_cons.1 h
    have hdigit : c.toNat - '0'.toNat ≤ 9 := Nat.sub_le_of_le_add (toNat_of_isDigit hc).2
    have hle : Nat.pow 10 cs.length * (c.toNat - '0'.toNat) ≤ Nat.pow 10 cs.length * 9 :=
      Nat.mul_le_mul_left _ hdigit
    have hrest := ih hcs
    have hpow : Nat.pow 10 (c :: cs).length = Nat.pow 10 cs.length * 10 := rfl
    rw [decimal_cons]
    omega

theorem mul_add_lt_mul_add_iff {p a b x y : Nat} (hx : x < p) (hy : y < p) :
    p * a + x < p * b + y ↔ a < b ∨ a = b ∧ x < y := by
  rcases Nat.lt_trichotomy a b with hlt | rfl | hgt
  · have hle := Nat.mul_le_mul_left p (Nat.succ_le_of_lt hlt)
    rw [Nat.mul_succ] at hle
    omega
  · omega
  · have hle := Nat.mul_le_mul_left p (Nat.succ_le_of_lt hgt)
    rw [Nat.mul_succ] at hle
    omega

/-- Numbers written with the same number of digits come in the order of their texts. -/
theorem lt_iff_decimal_lt {cs ds : List Char} (hcs : ∀ c ∈ cs, c.isDigit = true)
    (hds : ∀ c ∈ ds, c.isDigit = true) (hlength : cs.length = ds.length) :
    cs < ds ↔ decimal cs < decimal ds := by
  induction cs generalizing ds with
  | nil =>
    rw [List.eq_nil_of_length_eq_zero hlength.symm]
    simp
  | cons c cs ih =>
    cases ds with
    | nil => cases hlength
    | cons d ds =>
      obtain ⟨hc, hcs⟩ := List.forall_mem_cons.1 hcs
      obtain ⟨hd, hds⟩ := List.forall_mem_cons.1 hds
      have hlength : cs.length = ds.length := Nat.succ.inj hlength
      have hlt := decimal_lt hcs
      rw [hlength] at hlt
      have hzero : '0'.toNat = 48 := rfl
      have hdigit := toNat_of_isDigit hc
      have hdigit' := toNat_of_isDigit hd
      have hchar : c < d ↔ c.toNat < d.toNat := Iff.rfl
      rw [List.cons_lt_cons_iff, ih hcs hds hlength, decimal_cons, decimal_cons, hlength,
        mul_add_lt_mul_add_iff hlt (decimal_lt hds), hchar, ← Char.toNat_inj]
      omega

theorem eq_of_decimal_eq {cs ds : List Char} (hcs : ∀ c ∈ cs, c.isDigit = true)
    (hds : ∀ c ∈ ds, c.isDigit = true) (hlength : cs.length = ds.length)
    (h : decimal cs = decimal ds) : cs = ds := by
  refine List.le_antisymm (List.not_lt.1 ?_) (List.not_lt.1 ?_)
  · rw [lt_iff_decimal_lt hds hcs hlength.symm]
    omega
  · rw [lt_iff_decimal_lt hcs hds hlength]
    omega

theorem decimal?_eq_some_iff {cs : List Char} {n : Nat} :
    decimal? cs = some n ↔ cs ≠ [] ∧ (∀ c ∈ cs, c.isDigit = true) ∧ decimal cs = n := by
  rw [decimal?, Option.ite_none_right_eq_some, Option.some_inj, List.all_eq_true, and_assoc]

end NodeLabels.Text
