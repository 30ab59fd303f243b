import NodeLabels.Proofs.Text.Utf8
import NodeLabels.Proofs.Url.Path
/-!
# Escapes in texts

What decoding makes of a text that nobody encoded. It gives the text itself if no escape stands in
it, and else a shorter text (`decode_of_not_hasEscape`, `length_decode_add`); encoding the rest of
the characters before changes nothing (`decode_encodeSet`).
-/

namespace NodeLabels.Text

/-- What holds of each ASCII character can be checked one by one. -/
theorem of_ascii {p : Char → Prop} (h : ∀ n < 128, p (Char.ofNat n)) {c : Char}
    (hc : c.toNat < 128) : p c := by
  have hp := h c.toNat hc
  rwa [Char.ofNat_toNat] at hp

/-- Digits are ASCII characters. -/
theorem toNat_lt_of_digit? {base : Nat} {c : Char} (h : (digit? base c).isSome) :
    c.toNat < 128 := by
  have hle : ∀ d : Char, c ≤ d → d.toNat < 128 → c.toNat < 128 := fun d hc hd =>
    Nat.lt_of_le_of_lt (UInt32.le_iff_toNat_le.1 hc) hd
  unfold digit? at h
  split at h
  · rename_i hc
    exact hle '9' hc.2 (by decide)
  split at h
  · rename_i hc
    exact hle 'z' hc.2 (by decide)
  split at h
  · rename_i hc
    exact hle 'Z' hc.2 (by decide)
  · simp at h
end NodeLabels.Text
namespace NodeLabels.Url

/-- Whether an escape stands at the front. -/
def isEscape : List Char → Bool
  | '%' :: a :: b :: _ => (Text.digit? 16 a).isSome && (Text.digit? 16 b).isSome
  | _ => false

def hasEscape : List Char → Bool
  | [] => false
  | c :: cs => isEscape (c :: cs) || hasEscape cs

theorem isEscape_eq_true {cs : List Char} (h : isEscape cs = true) : ∃ a b rest m n,
    cs = '%' :: a :: b :: rest ∧ Text.digit? 16 a = some m ∧ Text.digit? 16 b = some n := by
  unfold isEscape at h
  split at h
  · rename_i a b rest
    rw [Bool.and_eq_true, Option.isSome_iff_exists, Option.isSome_iff_exists] at h
    obtain ⟨⟨m, hm⟩, n, hn⟩ := h
    exact ⟨a, b, rest, m, n, rfl, hm, hn⟩
  · cases h

theorem decodeBytes_escape {a b : Char} {m n : Nat} (ha : Text.digit? 16 a = some m)
    (hb : Text.digit? 16 b = some n) (rest : List Char) :
    decodeBytes ('%' :: a :: b :: rest) = UInt8.ofNat (16 * m + n) :: decodeBytes rest := by
  simp only [decodeBytes, ha, hb]

theorem decodeBytes_of_not_isEscape {c : Char} {cs : List Char} (h : isEscape (c :: cs) = false) :
    decodeBytes (c :: cs) = Text.encodeChar c ++ decodeBytes cs := by
  by_cases hc : c = '%'
  · subst hc
    rcases cs with - | ⟨a, - | ⟨b, cs⟩⟩
    · rfl
    · rfl
    · rw [isEscape] at h
      rw [decodeBytes]
      cases ha : Text.digit? 16 a with
      | none => rfl
      | some m =>
        cases hb : Text.digit? 16 b with
        | none => rfl
        | some n => simp [ha, hb] at h
  · exact decodeBytes_cons hc cs

/-- Induction along a text, an escape being one step. -/
theorem escapeInduction {motive : List Char → Prop} (nil : motive [])
    (escape : ∀ a b rest m n, Text.digit? 16 a = some m → Text.digit? 16 b = some n → motive rest →
      motive ('%' :: a :: b :: rest))
    (char : ∀ c cs, isEscape (c :: cs) = false → motive cs → motive (c :: cs)) (cs : List Char) :
    motive cs := by
  induction h : cs.length using Nat.strongRecOn generalizing cs with
  | ind n ih =>
    subst h
    rcases cs with - | ⟨c, cs⟩
    · exact nil
    cases he : isEscape (c :: cs) with
    | false => exact char c cs he (ih cs.length (by simp) cs rfl)
    | true =>
      obtain ⟨a, b, rest, m, n, hcs, ha, hb⟩ := isEscape_eq_true he
      rw [hcs] at ih ⊢
      exact escape a b rest m n ha hb (ih rest.length (by simp; omega) rest rfl)

theorem decodeBytes_of_not_hasEscape {cs : List Char} (h : hasEscape cs = false) :
    decodeBytes cs = Text.encode cs := by
  induction cs with
  | nil => rfl
  | cons c cs ih =>
    obtain ⟨hc, hcs⟩ := Bool.or_eq_false_iff.1 h
    rw [decodeBytes_of_not_isEscape hc, ih hcs]
    rfl

theorem decode_of_not_hasEscape {cs : List Char} (h : hasEscape cs = false) : decode cs = cs := by
  rw [decode, decodeBytes_of_not_hasEscape h, Text.decodeLossy_encode]

theorem length_decodeLossy_decodeBytes (cs : List Char) (bs : List UInt8) :
    (Text.decodeLossy (bs ++ decodeBytes cs)).length + (if hasEscape cs then 1 else 0) ≤
      bs.length + cs.length := by
  induction cs using escapeInduction generalizing bs with
  | nil => simpa [decodeBytes, hasEscape] using Text.length_decodeLossy_le bs
  | escape a b rest m n ha hb ih =>
    have h := ih (bs ++ [UInt8.ofNat (16 * m + n)])
    rw [List.append_assoc, List.singleton_append, ← decodeBytes_escape ha hb] at h
    simp only [List.length_append, List.length_cons, List.length_nil] at h ⊢
    split <;> omega
  | char c cs hc ih =>
    have h := ih []
    have hbs := Text.length_decodeLossy_le bs
    rw [decodeBytes_of_not_isEscape hc, Text.decodeLossy_append_encodeChar, hasEscape, hc]
    simp only [Bool.false_or, List.length_append, List.length_cons, List.nil_append,
      List.length_nil] at h ⊢
    omega

/-- Resolving an escape makes a text shorter. -/
theorem length_decode_add (cs : List Char) :
    (decode cs).length + (if hasEscape cs then 1 else 0) ≤ cs.length := by
  have h := length_decodeLossy_decodeBytes cs []
  rwa [List.nil_append, List.length_nil, Nat.zero_add] at h

namespace Form

theorem length_decodeText_le (cs : List Char) : (decodeText cs).length ≤ cs.length := by
  have h := length_decode_add (cs.map unplus)
  rw [List.length_map] at h
  rw [decodeText, String.length_ofList]
  exact Nat.le_of_add_right_le h

/-- No value is longer than the query. -/
theorem length_le_of_mem_decode {query : List Char} {p : String × String} (h : p ∈ decode query) :
    p.2.length ≤ query.length := by
  obtain ⟨piece, hpiece, rfl⟩ := List.mem_map.1 h
  have hvalue : (piece.dropWhile (· ≠ '=')).tail.length ≤ piece.length :=
    ((List.tail_sublist _).trans (List.dropWhile_sublist _)).length_le
  exact Nat.le_trans (length_decodeText_le _)
    (Nat.le_trans hvalue (Text.length_le_of_mem_splitAt (List.mem_filter.1 hpiece).1))

end Form

/-! ## Encoded parts -/

/-- The set leaves escapes as they are. -/
structure LeavesEscapes (set : Char → Bool) : Prop where
  mark : set '%' = false
  digit : ∀ c, (Text.digit? 16 c).isSome → set c = false

theorem encodeSet_cons_of_not {set : Char → Bool} {c : Char} (h : set c = false) (cs : List Char) :
    encodeSet set (c :: cs) = c :: encodeSet set cs := by
  simp [encodeSet, h]

theorem encodeSet_cons_of_set {set : Char → Bool} {c : Char} (h : set c = true) (cs : List Char) :
    encodeSet set (c :: cs) = (Text.encodeChar c).flatMap encodeByte ++ encodeSet set cs := by
  simp [encodeSet, h]

/-- A digit in front of an encoded part is one of the part itself. -/
theorem of_encodeSet_eq_cons {set : Char → Bool} {cs rest : List Char} {a : Char}
    (ha : (Text.digit? 16 a).isSome) (h : encodeSet set cs = a :: rest) :
    ∃ cs', cs = a :: cs' ∧ encodeSet set cs' = rest := by
  cases cs with
  | nil => cases h
  | cons c cs =>
    cases hs : set c with
    | false =>
      rw [encodeSet_cons_of_not hs] at h
      obtain ⟨rfl, rfl⟩ := List.cons.inj h
      exact ⟨cs, rfl, rfl⟩
    | true =>
      obtain ⟨b, tail, hc, -⟩ := Text.encodeChar_head c
      rw [encodeSet_cons_of_set hs, hc, List.flatMap_cons] at h
      have hmark : '%' = a := (List.cons.inj h).1
      rw [← hmark] at ha
      exact absurd ha (by decide)

theorem isEscape_of_encodeSet {set : Char → Bool} {c : Char} {cs : List Char}
    (h : isEscape (c :: encodeSet set cs) = true) : isEscape (c :: cs) = true := by
  obtain ⟨a, b, rest, m, n, hfull, ha, hb⟩ := isEscape_eq_true h
  obtain ⟨rfl, hcs⟩ := List.cons.inj hfull
  have ha' : (Text.digit? 16 a).isSome := by rw [ha]; rfl
  have hb' : (Text.digit? 16 b).isSome := by rw [hb]; rfl
  obtain ⟨cs, rfl, hrest⟩ := of_encodeSet_eq_cons ha' hcs
  obtain ⟨cs, rfl, -⟩ := of_encodeSet_eq_cons hb' hrest
  rw [isEscape, ha', hb']
  rfl

theorem decodeBytes_encodeSet {set : Char → Bool} (hset : LeavesEscapes set) (cs : List Char) :
    decodeBytes (encodeSet set cs) = decodeBytes cs := by
  induction cs using escapeInduction with
  | nil => rfl
  | escape a b rest m n ha hb ih =>
    have hsa : set a = false := hset.digit a (by rw [ha]; rfl)
    have hsb : set b = false := hset.digit b (by rw [hb]; rfl)
    rw [encodeSet_cons_of_not hset.mark, encodeSet_cons_of_not hsa, encodeSet_cons_of_not hsb,
      decodeBytes_escape ha hb, decodeBytes_escape ha hb, ih]
  | char c cs hc ih =>
    rw [decodeBytes_of_not_isEscape hc]
    cases hs : set c with
    | true => rw [encodeSet_cons_of_set hs, decodeBytes_encodeBytes, ih]
    | false =>
      have hc' : isEscape (c :: encodeSet set cs) = false :=
        Bool.eq_false_iff.2 fun h => Bool.false_ne_true (hc.symm.trans (isEscape_of_encodeSet h))
      rw [encodeSet_cons_of_not hs, decodeBytes_of_not_isEscape hc', ih]

theorem decode_encodeSet {set : Char → Bool} (hset : LeavesEscapes set) (cs : List Char) :
    decode (encodeSet set cs) = decode cs := by
  rw [decode, decodeBytes_encodeSet hset, decode]

theorem leavesEscapes_inPathSet : LeavesEscapes inPathSet := by
  refine ⟨by decide, fun c hc => ?_⟩
  exact Text.of_ascii (p := fun c => (Text.digit? 16 c).isSome → inPathSet c = false) (by decide)
    (Text.toNat_lt_of_digit? hc) hc


/-! ## Dot segments -/

theorem of_toLower {d : Char} {p : Char → Prop} (hd : p d)
    (hascii : ∀ n < 128, (Char.ofNat n).toLower = d → p (Char.ofNat n)) {c : Char}
    (h : c.toLower = d) : p c := by
  by_cases hc : c.toNat < 128
  · exact Text.of_ascii (p := fun c => c.toLower = d → p c) hascii hc h
  · -- only ASCII characters have another lower case
    unfold Char.toLower at h
    split at h
    · rename_i hupper
      exact absurd (Nat.lt_of_le_of_lt (UInt32.le_iff_toNat_le.1 hupper.2) (by decide)) hc
    · exact h ▸ hd

theorem eq_dot_of_toLower {c : Char} : c.toLower = '.' → c = '.' :=
  of_toLower (p := (· = '.')) rfl (by decide)

theorem decodeBytes_dot {p q r : Char} (hp : p.toLower = '%') (hq : q.toLower = '2')
    (hr : r.toLower = 'e') (rest : List Char) :
    decodeBytes (p :: q :: r :: rest) = Text.encodeChar '.' ++ decodeBytes rest := by
  have hpercent : p = '%' := of_toLower (p := (· = '%')) rfl (by decide) hp
  have htwo : Text.digit? 16 q = some 2 :=
    of_toLower (p := (Text.digit? 16 · = some 2)) (by decide) (by decide) hq
  have he : Text.digit? 16 r = some 14 :=
    of_toLower (p := (Text.digit? 16 · = some 14)) (by decide) (by decide) hr
  rw [hpercent, decodeBytes_escape htwo he]
  rfl

theorem decode_of_isSingleDot {s : List Char} (h : isSingleDot s = true) : decode s = ['.'] := by
  rw [isSingleDot, Bool.or_eq_true, decide_eq_true_eq, decide_eq_true_eq] at h
  obtain rfl | h := h
  · decide +kernel
  · simp only [List.map_eq_cons_iff, List.map_eq_nil_iff] at h
    obtain ⟨p, _, rfl, hp, q, _, rfl, hq, r, _, rfl, hr, rfl⟩ := h
    rw [decode, decodeBytes_dot hp hq hr]
    decide +kernel

/-- The ways to write two dots, in lower case. -/
theorem isDoubleDot_cases {s : List Char} (h : isDoubleDot s = true) :
    s.map Char.toLower = ['.', '.'] ∨ s.map Char.toLower = ['%', '2', 'e', '%', '2', 'e'] ∨
      s.map Char.toLower = ['.', '%', '2', 'e'] ∨ s.map Char.toLower = ['%', '2', 'e', '.'] := by
  simp only [isDoubleDot, List.any_cons, List.any_nil, Bool.or_false, Bool.or_eq_true,
    decide_eq_true_eq] at h
  exact h.imp Eq.symm (Or.imp Eq.symm (Or.imp Eq.symm Eq.symm))

theorem decode_of_isDoubleDot {s : List Char} (h : isDoubleDot s = true) :
    decode s = ['.', '.'] := by
  rcases isDoubleDot_cases h with h | h | h | h
  all_goals simp only [List.map_eq_cons_iff, List.map_eq_nil_iff] at h
  · obtain ⟨c, _, rfl, hc, d, _, rfl, hd, rfl⟩ := h
    rw [eq_dot_of_toLower hc, eq_dot_of_toLower hd]
    decide +kernel
  · obtain ⟨p, _, rfl, hp, q, _, rfl, hq, r, _, rfl, hr, p', _, rfl, hp', q', _, rfl, hq', r', _,
      rfl, hr', rfl⟩ := h
    rw [decode, decodeBytes_dot hp hq hr, decodeBytes_dot hp' hq' hr']
    decide +kernel
  · obtain ⟨c, _, rfl, hc, p, _, rfl, hp, q, _, rfl, hq, r, _, rfl, hr, rfl⟩ := h
    rw [eq_dot_of_toLower hc, decode, decodeBytes_cons (by decide), decodeBytes_dot hp hq hr]
    decide +kernel
  · obtain ⟨p, _, rfl, hp, q, _, rfl, hq, r, _, rfl, hr, c, _, rfl, hc, rfl⟩ := h
    rw [eq_dot_of_toLower hc, decode, decodeBytes_dot hp hq hr]
    decide +kernel

end NodeLabels.Url
