import NodeLabels.Text.Utf8
/-!
# UTF-8, read back

The bytes of a text are read as that text, whatever the mark for ill-formed parts. Everything rests
on `lead_encodeChar`: in front of any bytes, those of a character are taken as that character and
nothing else.
-/

namespace NodeLabels.Text

theorem toNat_byte {n : Nat} (h : n < 256) : (UInt8.ofNat n).toNat = n := by
  rw [UInt8.toNat_ofNat', Nat.mod_eq_of_lt h]

theorem isTail_iff (b : UInt8) : isTail b = true ↔ 0x80 ≤ b.toNat ∧ b.toNat ≤ 0xBF := by
  simp [isTail, UInt8.le_iff_toNat_le]

theorem secondByteOk_iff (b b₁ : UInt8) : secondByteOk b b₁ = true ↔
    0x80 ≤ b₁.toNat ∧ b₁.toNat ≤ 0xBF ∧ (b.toNat = 0xE0 → 0xA0 ≤ b₁.toNat) ∧
      (b.toNat = 0xED → b₁.toNat ≤ 0x9F) ∧ (b.toNat = 0xF0 → 0x90 ≤ b₁.toNat) ∧
      (b.toNat = 0xF4 → b₁.toNat ≤ 0x8F) := by
  unfold secondByteOk
  simp only [← UInt8.toNat_inj, UInt8.le_iff_toNat_le, UInt8.reduceToNat]
  repeat' split
  all_goals simp [isTail, UInt8.le_iff_toNat_le]
  all_goals omega

theorem lead_one {b : UInt8} (hb : b.toNat < 0x80) (rest : List UInt8) :
    lead b rest = .char (Char.ofNat b.toNat) 1 := by
  rw [lead.eq_def, if_pos (UInt8.lt_iff_toNat_lt.2 hb)]

/-- Past the one-byte characters the lead byte only says how many bytes follow. -/
theorem lead_many {b : UInt8} (hb : 0xC2 ≤ b.toNat) (hb' : b.toNat ≤ 0xF4) :
    ¬ b < 0x80 ∧ ¬ (decide (b < 0xC2) || decide (0xF4 < b)) = true := by
  simp only [UInt8.lt_iff_toNat_lt, UInt8.reduceToNat, Bool.or_eq_true, decide_eq_true_eq]
  omega

theorem lead_two {b b₁ : UInt8} (hb : 0xC2 ≤ b.toNat) (hb' : b.toNat < 0xE0)
    (h₁ : secondByteOk b b₁ = true) (rest : List UInt8) :
    lead b (b₁ :: rest) =
      .char (Char.ofNat ((b.toNat - 0xC0) * 64 + (b₁.toNat - 0x80))) 2 := by
  obtain ⟨hn, hn'⟩ := lead_many hb (by omega)
  have hlt : b < 0xE0 := UInt8.lt_iff_toNat_lt.2 hb'
  simp [lead.eq_def, hn, hn', h₁, hlt]

theorem lead_three {b b₁ b₂ : UInt8} (hb : 0xE0 ≤ b.toNat) (hb' : b.toNat < 0xF0)
    (h₁ : secondByteOk b b₁ = true) (h₂ : isTail b₂ = true) (rest : List UInt8) :
    lead b (b₁ :: b₂ :: rest) =
      .char (Char.ofNat ((b.toNat - 0xE0) * 4096 + (b₁.toNat - 0x80) * 64 +
        (b₂.toNat - 0x80))) 3 := by
  obtain ⟨hn, hn'⟩ := lead_many (b := b) (by omega) (by omega)
  have hge : ¬ b < 0xE0 := fun h => Nat.not_lt.2 hb (UInt8.lt_iff_toNat_lt.1 h)
  have hlt : b < 0xF0 := UInt8.lt_iff_toNat_lt.2 hb'
  simp [lead.eq_def, hn, hn', h₁, h₂, hge, hlt]

theorem lead_four {b b₁ b₂ b₃ : UInt8} (hb : 0xF0 ≤ b.toNat) (hb' : b.toNat ≤ 0xF4)
    (h₁ : secondByteOk b b₁ = true) (h₂ : isTail b₂ = true) (h₃ : isTail b₃ = true)
    (rest : List UInt8) :
    lead b (b₁ :: b₂ :: b₃ :: rest) =
      .char (Char.ofNat ((b.toNat - 0xF0) * 262144 + (b₁.toNat - 0x80) * 4096 +
        (b₂.toNat - 0x80) * 64 + (b₃.toNat - 0x80))) 4 := by
  obtain ⟨hn, hn'⟩ := lead_many (b := b) (by omega) hb'
  have hge : ¬ b < 0xE0 := fun h => Nat.not_lt.2 hb
    (Nat.lt_trans (UInt8.lt_iff_toNat_lt.1 h) (by decide))
  have hge' : ¬ b < 0xF0 := fun h => Nat.not_lt.2 hb (UInt8.lt_iff_toNat_lt.1 h)
  simp [lead.eq_def, hn, hn', h₁, h₂, h₃, hge, hge']

theorem lead_encodeChar (c : Char) (rest : List UInt8) :
    ∃ b tail, encodeChar c = b :: tail ∧ lead b (tail ++ rest) = .char c (tail.length + 1) := by
  have hv : c.toNat < 0xD800 ∨ 0xDFFF < c.toNat ∧ c.toNat < 0x110000 := c.valid
  by_cases h1 : c.toNat < 0x80
  · have hb : (UInt8.ofNat c.toNat).toNat = c.toNat := toNat_byte (by omega)
    refine ⟨UInt8.ofNat c.toNat, [], if_pos h1, ?_⟩
    rw [lead_one (by omega), hb, Char.ofNat_toNat]
    rfl
  by_cases h2 : c.toNat < 0x800
  · have hb : (UInt8.ofNat (0xC0 + c.toNat / 64)).toNat = 0xC0 + c.toNat / 64 :=
      toNat_byte (by omega)
    have hb₁ : (UInt8.ofNat (0x80 + c.toNat % 64)).toNat = 0x80 + c.toNat % 64 :=
      toNat_byte (by omega)
    refine ⟨_, _, (if_neg h1).trans (if_pos h2), ?_⟩
    rw [List.singleton_append, lead_two (by omega) (by omega)
      ((secondByteOk_iff _ _).2 (by omega)), hb, hb₁]
    have e : (0xC0 + c.toNat / 64 - 0xC0) * 64 + (0x80 + c.toNat % 64 - 0x80) = c.toNat := by omega
    rw [e, Char.ofNat_toNat]
    rfl
  by_cases h3 : c.toNat < 0x10000
  · have hb : (UInt8.ofNat (0xE0 + c.toNat / 4096)).toNat = 0xE0 + c.toNat / 4096 :=
      toNat_byte (by omega)
    have hb₁ : (UInt8.ofNat (0x80 + c.toNat / 64 % 64)).toNat = 0x80 + c.toNat / 64 % 64 :=
      toNat_byte (by omega)
    have hb₂ : (UInt8.ofNat (0x80 + c.toNat % 64)).toNat = 0x80 + c.toNat % 64 :=
      toNat_byte (by omega)
    refine ⟨_, _, (if_neg h1).trans ((if_neg h2).trans (if_pos h3)), ?_⟩
    rw [List.cons_append, List.singleton_append, lead_three (by omega) (by omega)
      ((secondByteOk_iff _ _).2 (by omega)) ((isTail_iff _).2 (by omega)), hb, hb₁, hb₂]
    have e : (0xE0 + c.toNat / 4096 - 0xE0) * 4096 + (0x80 + c.toNat / 64 % 64 - 0x80) * 64 +
        (0x80 + c.toNat % 64 - 0x80) = c.toNat := by omega
    rw [e, Char.ofNat_toNat]
    rfl
  · have hb : (UInt8.ofNat (0xF0 + c.toNat / 262144)).toNat = 0xF0 + c.toNat / 262144 :=
      toNat_byte (by omega)
    have hb₁ : (UInt8.ofNat (0x80 + c.toNat / 4096 % 64)).toNat = 0x80 + c.toNat / 4096 % 64 :=
      toNat_byte (by omega)
    have hb₂ : (UInt8.ofNat (0x80 + c.toNat / 64 % 64)).toNat = 0x80 + c.toNat / 64 % 64 :=
      toNat_byte (by omega)
    have hb₃ : (UInt8.ofNat (0x80 + c.toNat % 64)).toNat = 0x80 + c.toNat % 64 :=
      toNat_byte (by omega)
    refine ⟨_, _, (if_neg h1).trans ((if_neg h2).trans (if_neg h3)), ?_⟩
    rw [List.cons_append, List.cons_append, List.singleton_append, lead_four (by omega) (by omega)
      ((secondByteOk_iff _ _).2 (by omega)) ((isTail_iff _).2 (by omega))
      ((isTail_iff _).2 (by omega)), hb, hb₁, hb₂, hb₃]
    have e : (0xF0 + c.toNat / 262144 - 0xF0) * 262144 +
        (0x80 + c.toNat / 4096 % 64 - 0x80) * 4096 + (0x80 + c.toNat / 64 % 64 - 0x80) * 64 +
        (0x80 + c.toNat % 64 - 0x80) = c.toNat := by omega
    rw [e, Char.ofNat_toNat]
    rfl

theorem decodeWith_encodeChar_append (mark : List Char) (c : Char) (rest : List UInt8) :
    decodeWith mark (encodeChar c ++ rest) = c :: decodeWith mark rest := by
  obtain ⟨b, tail, hc, hl⟩ := lead_encodeChar c rest
  rw [hc, List.cons_append, decodeWith, hl]
  simp

theorem decodeWith_encode (mark cs : List Char) : decodeWith mark (encode cs) = cs := by
  induction cs with
  | nil => rw [encode, List.flatMap_nil, decodeWith]
  | cons c cs ih =>
    rw [encode, List.flatMap_cons, decodeWith_encodeChar_append]
    exact congrArg (c :: ·) ih

theorem decodeLossy_encode (cs : List Char) : decodeLossy (encode cs) = cs :=
  decodeWith_encode _ cs

/-! ## Bytes in front of a character -/

theorem encodeChar_head (c : Char) : ∃ b tail, encodeChar c = b :: tail ∧ isTail b = false := by
  have hv : c.toNat < 0xD800 ∨ 0xDFFF < c.toNat ∧ c.toNat < 0x110000 := c.valid
  have hhead : ∀ n < 256, n < 0x80 ∨ 0xC0 ≤ n → isTail (UInt8.ofNat n) = false := by
    intro n hn h
    rw [Bool.eq_false_iff, ne_eq, isTail_iff, toNat_byte hn]
    omega
  unfold encodeChar
  dsimp only
  split
  · exact ⟨_, _, rfl, hhead _ (by omega) (by omega)⟩
  split
  · exact ⟨_, _, rfl, hhead _ (by omega) (by omega)⟩
  split
  · exact ⟨_, _, rfl, hhead _ (by omega) (by omega)⟩
  · exact ⟨_, _, rfl, hhead _ (by omega) (by omega)⟩

theorem secondByteOk_of_not_isTail {x : UInt8} (hx : isTail x = false) (b : UInt8) :
    secondByteOk b x = false := by
  rw [Bool.eq_false_iff, ne_eq, secondByteOk_iff]
  rw [Bool.eq_false_iff, ne_eq, isTail_iff] at hx
  omega

/-- How many bytes the front of a text takes. -/
def Lead.width : Lead → Nat
  | .char _ width => width
  | .broken width => width

theorem width_lead_le (b : UInt8) (rest : List UInt8) : (lead b rest).width ≤ rest.length + 1 := by
  rw [lead.eq_def]
  repeat' split
  all_goals simp only [Lead.width, List.length_cons, List.length_nil]
  all_goals omega

/-- A byte that begins a character is no part of what stands before it. -/
theorem lead_append {x : UInt8} (hx : isTail x = false) (b : UInt8) (bs rest : List UInt8) :
    lead b (bs ++ x :: rest) = lead b bs := by
  have hsecond := secondByteOk_of_not_isTail hx b
  rw [lead.eq_def, lead.eq_def b bs]
  rcases bs with - | ⟨b₁, - | ⟨b₂, - | ⟨b₃, bs⟩⟩⟩
  · simp [hsecond]
  · simp [hx]
  · simp [hx]
  · simp

theorem decodeWith_append_encodeChar (mark : List Char) (bs : List UInt8) (c : Char)
    (rest : List UInt8) : decodeWith mark (bs ++ (encodeChar c ++ rest)) =
      decodeWith mark bs ++ c :: decodeWith mark rest := by
  obtain ⟨x, tail, hc, hx⟩ := encodeChar_head c
  have hlead : ∀ b bs, lead b (bs ++ (encodeChar c ++ rest)) = lead b bs := by
    rw [hc]
    exact fun b bs => lead_append hx b bs _
  have hdrop : ∀ b bs, (bs ++ (encodeChar c ++ rest)).drop ((lead b bs).width - 1) =
      bs.drop ((lead b bs).width - 1) ++ (encodeChar c ++ rest) := fun b bs =>
    List.drop_append_of_le_length (by have := width_lead_le b bs; omega)
  fun_induction decodeWith mark bs with
  | case1 => exact decodeWith_encodeChar_append mark c rest
  | case2 b bs d width h ih =>
    have hfront := hdrop b bs
    rw [h] at hfront
    rw [List.cons_append, decodeWith, hlead, h]
    exact congrArg (d :: ·) ((congrArg (decodeWith mark) hfront).trans ih)
  | case3 b bs width h ih =>
    have hfront := hdrop b bs
    rw [h] at hfront
    rw [List.cons_append, decodeWith, hlead, h, List.append_assoc]
    exact congrArg (mark ++ ·) ((congrArg (decodeWith mark) hfront).trans ih)

theorem decodeLossy_append_encodeChar (bs : List UInt8) (c : Char) (rest : List UInt8) :
    decodeLossy (bs ++ (encodeChar c ++ rest)) = decodeLossy bs ++ c :: decodeLossy rest :=
  decodeWith_append_encodeChar _ bs c rest

theorem length_decodeLossy_le (bs : List UInt8) : (decodeLossy bs).length ≤ bs.length := by
  unfold decodeLossy
  fun_induction decodeWith ['\ufffd'] bs with
  | case1 => exact Nat.le_refl 0
  | case2 b bs c width h ih =>
    simp only [List.length_cons, List.length_drop] at ih ⊢
    omega
  | case3 b bs width h ih =>
    simp only [List.length_append, List.length_cons, List.length_nil, List.length_drop] at ih ⊢
    omega

/-- Each character takes a byte at least. -/
theorem length_le_encode (cs : List Char) : cs.length ≤ (encode cs).length := by
  have h := length_decodeLossy_le (encode cs)
  rwa [decodeLossy_encode] at h

end NodeLabels.Text
