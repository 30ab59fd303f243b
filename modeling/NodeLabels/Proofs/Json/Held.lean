import NodeLabels.Json.Reader
import NodeLabels.Proofs.Decimal.Nearest
/-!
# Documents that can be held

A document that is kept as a whole has bounds that a skipped one has not: on its depth, on its texts
and on its numbers. `IsHeld` says them by the shape of the document, and a reader of any document
takes exactly those (`any_of_isHeld`, `any_of_not_isHeld`).
-/

namespace NodeLabels.Json

open Decimal (nearest powerOfTen overflowBorder)

/-! ## Numbers -/

namespace Number

/-- The first digits, rounded to a double, times the double of the power of ten that goes with them
is past the largest double. -/
def Overflows (n : Number) : Prop :=
  n.leading.digits ≠ 0 ∧ (lastPower < n.leading.exponent ∨ 0 ≤ n.leading.exponent ∧
    overflowBorder ≤
      (nearest n.leading.digits 1).value * (powerOfTen n.leading.exponent.natAbs).value)

/-- Nothing times a power of ten is nothing. -/
theorem not_overflowBorder_le_zero (b : Decimal.Binary) :
    ¬ overflowBorder ≤ (nearest 0 1).value * b.value := by
  have hzero : (nearest 0 1).value = 0 := zero_mul _
  rw [hzero, zero_mul]
  exact not_le.2 Decimal.overflowBorder_pos

theorem toDouble?_isSome_iff (n : Number) : n.toDouble?.isSome = true ↔ ¬ n.Overflows := by
  unfold toDouble? Overflows
  dsimp only
  generalize n.leading = d
  split_ifs with hneg hlarge hzero hinfinite
  · simp [hneg, lastPower]
    omega
  · simp [hzero]
  · simp [hzero, hlarge]
  · rw [Decimal.isInfinite_times_iff] at hinfinite
    have hdigits : d.digits ≠ 0 := fun h =>
      not_overflowBorder_le_zero _ (by rwa [h] at hinfinite)
    simp [hdigits, hinfinite]
    omega
  · rw [Decimal.isInfinite_times_iff] at hinfinite
    simp [hlarge, hinfinite]

end Number

/-! ## Documents -/

/-- Nothing in the document is stray, no number in it overflows, and it is nested no deeper. -/
inductive IsHeld : Nat → Json → Prop
  | null {depth : Nat} : IsHeld depth .null
  | bool {depth : Nat} (b : Bool) : IsHeld depth (.bool b)
  | word {depth : Nat} {n : Number} (hword : n.isWord = true) : IsHeld depth (.number n)
  | double {depth : Nat} {n : Number} (hrange : ¬ n.Overflows) : IsHeld depth (.number n)
  | string {depth : Nat} (s : String) : IsHeld depth (.string s)
  | array {depth : Nat} {items : List Json} (hitems : ∀ item ∈ items, IsHeld depth item) :
      IsHeld (depth + 1) (.array items)
  | object {depth : Nat} {members : List (String × Json)}
      (hmembers : ∀ m ∈ members, IsHeld depth m.2) : IsHeld (depth + 1) (.object members)

open Reader (isKept itemsKept membersKept)

theorem itemsKept_iff (items : List Json) :
    itemsKept items = true ↔ ∀ item ∈ items, isKept item = true := by
  induction items with
  | nil => simp [itemsKept]
  | cons item items ih => simp [itemsKept, ih]

theorem membersKept_iff (members : List (String × Json)) :
    membersKept members = true ↔ ∀ m ∈ members, isKept m.2 = true := by
  induction members with
  | nil => simp [membersKept]
  | cons m ms ih => simp [membersKept, ih]

theorem itemsDepth_le_iff {items : List Json} {bound : Nat} :
    itemsDepth items ≤ bound ↔ ∀ item ∈ items, item.depth ≤ bound := by
  induction items with
  | nil => simp [itemsDepth]
  | cons item items ih => simp [itemsDepth, ih]

theorem membersDepth_le_iff {members : List (String × Json)} {bound : Nat} :
    membersDepth members ≤ bound ↔ ∀ m ∈ members, m.2.depth ≤ bound := by
  induction members with
  | nil => simp [membersDepth]
  | cons m ms ih => simp [membersDepth, ih]

theorem isKept_number_iff (n : Number) :
    isKept (.number n) = true ↔ n.isWord = true ∨ ¬ n.Overflows := by
  rw [isKept, Bool.or_eq_true, n.toDouble?_isSome_iff]

theorem IsHeld.isKept {depth : Nat} {j : Json} (h : IsHeld depth j) :
    Reader.isKept j = true ∧ j.depth ≤ depth := by
  induction h with
  | null | bool | string => exact ⟨rfl, Nat.zero_le _⟩
  | word hword => exact ⟨(isKept_number_iff _).2 (.inl hword), Nat.zero_le _⟩
  | double hrange => exact ⟨(isKept_number_iff _).2 (.inr hrange), Nat.zero_le _⟩
  | array _ ih =>
    exact ⟨(itemsKept_iff _).2 fun item hitem => (ih item hitem).1,
      Nat.succ_le_succ (itemsDepth_le_iff.2 fun item hitem => (ih item hitem).2)⟩
  | object _ ih =>
    exact ⟨(membersKept_iff _).2 fun m hm => (ih m hm).1,
      Nat.succ_le_succ (membersDepth_le_iff.2 fun m hm => (ih m hm).2)⟩

mutual

theorem isHeld_of_isKept : (j : Json) → (depth : Nat) → isKept j = true → j.depth ≤ depth →
    IsHeld depth j
  | .null, _, _, _ => .null
  | .bool b, _, _, _ => .bool b
  | .number n, _, hkept, _ => by
    rcases (isKept_number_iff n).1 hkept with hword | hrange
    · exact .word hword
    · exact .double hrange
  | .string s, _, _, _ => .string s
  | .array items, depth + 1, hkept, hdepth =>
    .array (forall_isHeld items depth hkept (Nat.le_of_succ_le_succ hdepth))
  | .object members, depth + 1, hkept, hdepth =>
    .object (forall_isHeld_member members depth hkept (Nat.le_of_succ_le_succ hdepth))

theorem forall_isHeld : (items : List Json) → (depth : Nat) → itemsKept items = true →
    itemsDepth items ≤ depth → ∀ item ∈ items, IsHeld depth item
  | [], _, _, _ => by simp
  | item :: items, depth, hkept, hdepth => by
    rw [itemsKept, Bool.and_eq_true] at hkept
    rw [itemsDepth, Nat.max_le] at hdepth
    exact List.forall_mem_cons.2 ⟨isHeld_of_isKept item depth hkept.1 hdepth.1,
      forall_isHeld items depth hkept.2 hdepth.2⟩

theorem forall_isHeld_member : (members : List (String × Json)) → (depth : Nat) →
    membersKept members = true → membersDepth members ≤ depth →
    ∀ m ∈ members, IsHeld depth m.2
  | [], _, _, _ => by simp
  | (key, value) :: members, depth, hkept, hdepth => by
    rw [membersKept, Bool.and_eq_true] at hkept
    rw [membersDepth, Nat.max_le] at hdepth
    exact List.forall_mem_cons.2 ⟨isHeld_of_isKept value depth hkept.1 hdepth.1,
      forall_isHeld_member members depth hkept.2 hdepth.2⟩

end

section

variable {depth : Nat} {j : Json}

theorem any_of_isHeld (h : IsHeld depth j) : Reader.any depth j = some j := if_pos h.isKept

theorem any_of_not_isHeld (h : ¬ IsHeld depth j) : Reader.any depth j = none :=
  if_neg fun hkept => h (isHeld_of_isKept j depth hkept.1 hkept.2)

end

end NodeLabels.Json
