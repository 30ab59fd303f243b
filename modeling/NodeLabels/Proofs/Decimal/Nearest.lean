import Mathlib.Algebra.Order.Field.Power
import Mathlib.Data.Rat.Cast.Order
import Mathlib.Tactic.FieldSimp
import Mathlib.Tactic.Linarith
import Mathlib.Tactic.NormNum
import Mathlib.Tactic.Positivity
import Mathlib.Tactic.Ring
import NodeLabels.Decimal.Shortest
/-!
# Where doubles end

Rounding to a double comes out past the largest one from the middle between that and the next power
of two on (`isInfinite_nearest_iff`), and so does a product (`isInfinite_times_iff`).
-/

namespace NodeLabels.Decimal

/-- The number that a double stands for. -/
def Binary.value (b : Binary) : ℚ := b.mantissa * 2 ^ b.exponent

/-- The middle between the largest double and the next power of two. -/
def overflowBorder : ℚ := 2 ^ (1024 : ℤ) - 2 ^ (970 : ℤ)

/-! ## Rounding to whole numbers -/

section

variable {num den n : ℕ}

theorem roundEven_le (hden : 0 < den) (h : num ≤ n * den) : roundEven num den ≤ n := by
  have hmod := Nat.mod_lt num hden
  have hdiv := Nat.div_add_mod num den
  have hq : num / den ≤ n := Nat.div_le_of_le_mul (by rwa [Nat.mul_comm])
  rcases hq.lt_or_eq with hlt | heq
  · unfold roundEven
    dsimp only
    split_ifs <;> omega
  · have hr : num % den = 0 := by
      rw [heq, Nat.mul_comm] at hdiv
      omega
    unfold roundEven
    dsimp only
    rw [hr, if_pos (by omega)]
    omega

/-- A tie goes to the even number, which is reached from the middle below it on. -/
theorem le_roundEven_iff (hden : 0 < den) (heven : n % 2 = 0) (hn : 0 < n) :
    n ≤ roundEven num den ↔ (2 * n - 1) * den ≤ 2 * num := by
  have hmod := Nat.mod_lt num hden
  have hdiv := Nat.div_add_mod num den
  generalize hq : num / den = q at hdiv
  generalize hr : num % den = r at hmod hdiv
  have hnear : (2 * n - 1) * den ≤ 2 * num ↔ n ≤ q ∨ n = q + 1 ∧ den ≤ 2 * r := by
    subst hdiv
    rcases Nat.lt_trichotomy n (q + 1) with hlt | rfl | hgt
    · have hle : (2 * n - 1) * den ≤ 2 * q * den := Nat.mul_le_mul_right _ (by omega)
      have hfront : 2 * q * den = 2 * (den * q) := by rw [Nat.mul_assoc, Nat.mul_comm q]
      omega
    · have hfront : (2 * (q + 1) - 1) * den = 2 * (den * q) + den := by
        rw [show 2 * (q + 1) - 1 = 2 * q + 1 by omega, Nat.add_mul, Nat.mul_assoc, Nat.mul_comm q]
        omega
      omega
    · have hle : (2 * q + 3) * den ≤ (2 * n - 1) * den := Nat.mul_le_mul_right _ (by omega)
      have hfront : (2 * q + 3) * den = 2 * (den * q) + 3 * den := by
        rw [Nat.add_mul, Nat.mul_assoc, Nat.mul_comm q]
      omega
  unfold roundEven
  rw [hnear, hq, hr]
  dsimp only
  split_ifs <;> omega

end

/-! ## Rounding to doubles -/

section

variable {num den : ℕ}

theorem scale_pos (hden : 0 < den) (num : ℕ) (e : ℤ) : 0 < (scale 2 num den e).2 := by
  unfold scale
  split_ifs
  · exact Nat.mul_pos hden (Nat.pow_pos (by decide))
  · exact hden

theorem cast_pow_two (n : ℕ) : ((Nat.pow 2 n : ℕ) : ℚ) = 2 ^ (n : ℤ) := by
  rw [zpow_natCast]
  exact Nat.cast_pow 2 n

theorem scale_div (hden : 0 < den) (num : ℕ) (e : ℤ) :
    ((scale 2 num den e).1 : ℚ) / (scale 2 num den e).2 = num / den * 2 ^ (-e) := by
  have hne : (den : ℚ) ≠ 0 := by positivity
  unfold scale
  split_ifs with he
  · rw [Nat.cast_mul, cast_pow_two, Int.toNat_of_nonneg he, zpow_neg]
    field_simp
  · rw [Nat.cast_mul, cast_pow_two, Int.toNat_of_nonneg (by omega)]
    field_simp

/-- Comparing a scaled fraction with a whole number. -/
theorem scale_le_iff (hden : 0 < den) (num : ℕ) (e : ℤ) (a b : ℕ) :
    a * (scale 2 num den e).2 ≤ b * (scale 2 num den e).1 ↔
      (a : ℚ) * 2 ^ e ≤ b * (num / den) := by
  have hpos : (0 : ℚ) < (scale 2 num den e).2 := by exact_mod_cast scale_pos hden num e
  have htwo : (0 : ℚ) < 2 ^ e := by positivity
  rw [← Nat.cast_le (α := ℚ), Nat.cast_mul, Nat.cast_mul, ← le_div_iff₀ hpos, mul_div_assoc,
    scale_div hden, zpow_neg, ← mul_assoc, ← div_eq_mul_inv, le_div_iff₀ htwo]

theorem zpow_log2_le {n : ℕ} (hn : 0 < n) : (2 : ℚ) ^ (Nat.log2 n : ℤ) ≤ n := by
  rw [← cast_pow_two]
  exact Nat.cast_le.2 (Nat.log2_self_le hn.ne')

theorem lt_zpow_log2 (n : ℕ) : (n : ℚ) < 2 ^ ((Nat.log2 n : ℤ) + 1) := by
  rw [← Nat.cast_succ, ← cast_pow_two]
  exact Nat.cast_lt.2 Nat.lt_log2_self

/-- The exponent that `nearest` tries, before it is kept from falling below the smallest one. -/
def leadingExponent (num den : ℕ) : ℤ :=
  let d : ℤ := (Nat.log2 num : ℤ) - Nat.log2 den
  if (scale 2 num den d).1 < (scale 2 num den d).2 then d - 53 else d - 52

/-- It leaves 53 binary digits in front of the point. -/
theorem leadingExponent_spec (hnum : 0 < num) (hden : 0 < den) :
    (2 : ℚ) ^ (leadingExponent num den + 52) ≤ num / den ∧
      (num / den : ℚ) < 2 ^ (leadingExponent num den + 53) := by
  have hpos : (0 : ℚ) < den := by exact_mod_cast hden
  have hlow : (2 : ℚ) ^ ((Nat.log2 num : ℤ) - Nat.log2 den - 1) ≤ num / den := by
    rw [sub_sub, zpow_sub₀ two_ne_zero]
    exact div_le_div₀ (Nat.cast_nonneg _) (zpow_log2_le hnum) hpos (lt_zpow_log2 den).le
  have hhigh : (num / den : ℚ) < 2 ^ ((Nat.log2 num : ℤ) - Nat.log2 den + 1) := by
    rw [sub_add_eq_add_sub, zpow_sub₀ two_ne_zero]
    exact div_lt_div₀ (lt_zpow_log2 num) (zpow_log2_le hden) (by positivity) (by positivity)
  have hcompare := scale_le_iff hden num ((Nat.log2 num : ℤ) - Nat.log2 den) 1 1
  simp only [Nat.cast_one, one_mul] at hcompare
  unfold leadingExponent
  dsimp only
  split_ifs with hlt
  · have hbelow : (num / den : ℚ) < 2 ^ ((Nat.log2 num : ℤ) - Nat.log2 den) :=
      not_le.1 fun h => absurd (hcompare.2 h) (Nat.not_le.2 hlt)
    refine ⟨le_of_eq_of_le (congrArg _ ?_) hlow, lt_of_lt_of_eq hbelow (congrArg _ ?_)⟩ <;> omega
  · have habove := hcompare.1 (Nat.not_lt.1 hlt)
    refine ⟨le_of_eq_of_le (congrArg _ ?_) habove, lt_of_lt_of_eq hhigh (congrArg _ ?_)⟩ <;> omega

theorem nearest_eq (hnum : 0 < num) (den : ℕ) : nearest num den =
    let e := max (leadingExponent num den) (-1074)
    let m := roundEven (scale 2 num den e).1 (scale 2 num den e).2
    if m = 9007199254740992 then { mantissa := 4503599627370496, exponent := e + 1 }
    else { mantissa := m, exponent := e } := if_neg hnum.ne'

theorem overflowBorder_eq :
    overflowBorder = (2 * 9007199254740992 - 1 : ℕ) * 2 ^ (971 : ℤ) / 2 := by
  have hunit : (2 : ℚ) ^ (1024 : ℤ) = 2 ^ (53 : ℤ) * 2 ^ (971 : ℤ) :=
    zpow_add₀ two_ne_zero 53 971
  have hhalf : (2 : ℚ) ^ (971 : ℤ) = 2 ^ (1 : ℤ) * 2 ^ (970 : ℤ) := zpow_add₀ two_ne_zero 1 970
  rw [overflowBorder, hunit, hhalf]
  generalize (2 : ℚ) ^ (970 : ℤ) = unit
  norm_num
  ring

theorem le_overflowBorder : (2 : ℚ) ^ (1023 : ℤ) ≤ overflowBorder := by
  have hunit : (2 : ℚ) ^ (1023 : ℤ) = 2 ^ (52 : ℤ) * 2 ^ (971 : ℤ) :=
    zpow_add₀ two_ne_zero 52 971
  rw [overflowBorder_eq, hunit, mul_div_right_comm]
  exact mul_le_mul_of_nonneg_right (by norm_num) (by positivity)

theorem overflowBorder_pos : 0 < overflowBorder := lt_of_lt_of_le (by positivity) le_overflowBorder

theorem overflowBorder_le : overflowBorder ≤ (2 : ℚ) ^ (1024 : ℤ) := by
  unfold overflowBorder
  rw [sub_le_self_iff]
  positivity

/-- Rounding carries to the next power of two at most. -/
theorem roundEven_scale_le (hnum : 0 < num) (hden : 0 < den) {e : ℤ}
    (he : leadingExponent num den ≤ e) :
    roundEven (scale 2 num den e).1 (scale 2 num den e).2 ≤ 9007199254740992 := by
  have hpos : (0 : ℚ) < (scale 2 num den e).2 := by exact_mod_cast scale_pos hden num e
  have htop : (num / den : ℚ) ≤ 2 ^ (53 + e) :=
    (leadingExponent_spec hnum hden).2.le.trans (zpow_le_zpow_right₀ one_le_two (by omega))
  refine roundEven_le (scale_pos hden num e) ?_
  rw [← Nat.cast_le (α := ℚ), Nat.cast_mul, ← div_le_iff₀ hpos, scale_div hden, zpow_neg,
    ← div_eq_mul_inv, div_le_iff₀ (by positivity)]
  refine htop.trans (le_of_eq ?_)
  rw [zpow_add₀ two_ne_zero]
  norm_num

/-- The exponent is past that of the largest double, or the number is rounded up to the next power
of two. -/
theorem isInfinite_nearest_exponent (hnum : 0 < num) (hden : 0 < den) :
    (nearest num den).isInfinite = true ↔ 972 ≤ leadingExponent num den ∨
      leadingExponent num den = 971 ∧
        9007199254740992 ≤ roundEven (scale 2 num den 971).1 (scale 2 num den 971).2 := by
  have hcarry := roundEven_scale_le hnum hden (le_max_left (leadingExponent num den) (-1074))
  have hlast : leadingExponent num den = 971 → max (leadingExponent num den) (-1074) = 971 := by
    omega
  rw [nearest_eq hnum]
  dsimp only
  split_ifs with hm
  · simp only [Binary.isInfinite, decide_eq_true_eq]
    constructor
    · intro hpast
      by_cases heq : leadingExponent num den = 971
      · rw [hlast heq] at hm
        exact .inr ⟨heq, hm.ge⟩
      · omega
    · omega
  · simp only [Binary.isInfinite, decide_eq_true_eq]
    constructor
    · omega
    · rintro (hpast | ⟨heq, hge⟩)
      · omega
      · rw [hlast heq] at hm hcarry
        exact absurd (hcarry.antisymm hge) hm

/-- Whether the double nearest to a number is past the largest one. -/
theorem isInfinite_nearest_iff (hden : 0 < den) (num : ℕ) :
    (nearest num den).isInfinite = true ↔ overflowBorder ≤ num / den := by
  rcases Nat.eq_zero_or_pos num with rfl | hnum
  · have hzero : (nearest 0 den).isInfinite = false := rfl
    rw [hzero, Nat.cast_zero, zero_div]
    exact ⟨fun h => absurd h Bool.false_ne_true, fun h => absurd h (not_le.2 overflowBorder_pos)⟩
  obtain ⟨hlow, hhigh⟩ := leadingExponent_spec hnum hden
  rw [isInfinite_nearest_exponent hnum hden,
    le_roundEven_iff (scale_pos hden num 971) (by decide) (by decide),
    scale_le_iff hden num 971 (2 * 9007199254740992 - 1) 2, Nat.cast_two, ← div_le_iff₀' two_pos,
    ← overflowBorder_eq]
  constructor
  · rintro (hpast | ⟨-, htie⟩)
    · exact overflowBorder_le.trans ((zpow_le_zpow_right₀ one_le_two (by omega)).trans hlow)
    · exact htie
  · intro hle
    have hlt := (zpow_lt_zpow_iff_right₀ one_lt_two).1
      (le_overflowBorder.trans_lt (hle.trans_lt hhigh))
    rcases (show 972 ≤ leadingExponent num den ∨ leadingExponent num den = 971 by omega) with
      hpast | heq
    · exact .inl hpast
    · exact .inr ⟨heq, hle⟩

end

/-- Whether a product of doubles is past the largest one. -/
theorem isInfinite_times_iff (a b : Binary) :
    (a.times b).isInfinite = true ↔ overflowBorder ≤ a.value * b.value := by
  unfold Binary.times nearestScaled
  rw [isInfinite_nearest_iff (scale_pos Nat.one_pos _ _), scale_div Nat.one_pos, neg_neg,
    Nat.cast_one, div_one, Nat.cast_mul, zpow_add₀ two_ne_zero, mul_mul_mul_comm]
  rfl

end NodeLabels.Decimal
