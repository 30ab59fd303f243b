import NodeLabels.Proofs.Text.Split
import NodeLabels.Proofs.Text.Utf8
import NodeLabels.Url.Form
/-!
# Form-encoded queries, read back

Names and values that are added to a query come out of it again, in order and behind those that were
there before (`decode_append`). No hypothesis on the texts is needed: whatever could be taken for a
mark of the query is written as an escape.
-/

namespace NodeLabels.Url

theorem digit?_upperHexDigit : ∀ n < 16, Text.digit? 16 (upperHexDigit n) = some n := by decide

theorem decodeBytes_cons {c : Char} (h : c ≠ '%') (rest : List Char) :
    decodeBytes (c :: rest) = Text.encodeChar c ++ decodeBytes rest := by
  rw [decodeBytes]
  rintro a b rest' rfl
  exact absurd rfl h

theorem decodeBytes_encodeByte (b : UInt8) (rest : List Char) :
    decodeBytes (encodeByte b ++ rest) = b :: decodeBytes rest := by
  have hb : b.toNat < 256 := b.toNat_lt
  have hhi := digit?_upperHexDigit (b.toNat / 16) (by omega)
  have hlo := digit?_upperHexDigit (b.toNat % 16) (by omega)
  have e : 16 * (b.toNat / 16) + b.toNat % 16 = b.toNat := by omega
  simp only [encodeByte, List.cons_append, List.nil_append, decodeBytes, hhi, hlo, e,
    UInt8.ofNat_toNat]

theorem decodeBytes_encodeBytes (bs : List UInt8) (rest : List Char) :
    decodeBytes (bs.flatMap encodeByte ++ rest) = bs ++ decodeBytes rest := by
  induction bs with
  | nil => rfl
  | cons b bs ih => rw [List.flatMap_cons, List.append_assoc, decodeBytes_encodeByte, ih]; rfl

namespace Form

/-- The characters that an encoded name or value is written in. -/
def isWritten (c : Char) : Bool := isSafe c || c = '+' || c = '%'

theorem isWritten_upperHexDigit : ∀ n < 16, isWritten (upperHexDigit n) = true := by decide

theorem isWritten_of_mem_encodeByte {b : UInt8} {c : Char} (h : c ∈ encodeByte b) :
    isWritten c = true := by
  have hb : b.toNat < 256 := b.toNat_lt
  simp only [encodeByte, List.mem_cons, List.not_mem_nil, or_false] at h
  rcases h with rfl | rfl | rfl
  · decide
  · exact isWritten_upperHexDigit _ (by omega)
  · exact isWritten_upperHexDigit _ (by omega)

theorem isWritten_of_mem_encodeText {s : String} {c : Char} (h : c ∈ encodeText s) :
    isWritten c = true := by
  obtain ⟨d, -, hc⟩ := List.mem_flatMap.1 h
  unfold encodeChar at hc
  split at hc
  · rename_i hd
    rw [List.mem_singleton.1 hc, isWritten, hd]
    rfl
  split at hc
  · rw [List.mem_singleton.1 hc]
    rfl
  · obtain ⟨b, -, hb⟩ := List.mem_flatMap.1 hc
    exact isWritten_of_mem_encodeByte hb

theorem not_mem_encodeText {c : Char} (hc : isWritten c = false) (s : String) :
    c ∉ encodeText s := fun h =>
  Bool.false_ne_true (hc.symm.trans (isWritten_of_mem_encodeText h))

/-! ## One name or value -/

/-- What a plus sign stands for. -/
def unplus (c : Char) : Char := if c = '+' then ' ' else c

theorem unplus_of_ne {c : Char} (h : c ≠ '+') : unplus c = c := if_neg h

theorem upperHexDigit_ne_plus : ∀ n < 16, upperHexDigit n ≠ '+' := by decide

theorem map_unplus_encodeBytes (bs : List UInt8) :
    (bs.flatMap encodeByte).map unplus = bs.flatMap encodeByte := by
  induction bs with
  | nil => rfl
  | cons b bs ih =>
    have hb : b.toNat < 256 := b.toNat_lt
    rw [List.flatMap_cons, List.map_append, ih]
    simp only [encodeByte, List.map_cons, List.map_nil,
      unplus_of_ne (upperHexDigit_ne_plus (b.toNat / 16) (by omega)),
      unplus_of_ne (upperHexDigit_ne_plus (b.toNat % 16) (by omega)),
      unplus_of_ne (by decide : '%' ≠ '+')]

theorem decodeBytes_encodeChar (c : Char) (rest : List Char) :
    decodeBytes ((encodeChar c).map unplus ++ rest) = Text.encodeChar c ++ decodeBytes rest := by
  unfold encodeChar
  split
  · rename_i hc
    have hplus : c ≠ '+' := by rintro rfl; exact absurd hc (by decide)
    have hpercent : c ≠ '%' := by rintro rfl; exact absurd hc (by decide)
    rw [List.map_singleton, unplus_of_ne hplus, List.singleton_append, decodeBytes_cons hpercent]
  split
  · rename_i hc
    rw [hc]
    exact decodeBytes_cons (by decide) rest
  · rw [map_unplus_encodeBytes, decodeBytes_encodeBytes]

theorem decodeBytes_encodeText (s : String) :
    decodeBytes ((encodeText s).map unplus) = Text.encode s.toList := by
  unfold encodeText Text.encode
  induction s.toList with
  | nil => rfl
  | cons c cs ih =>
    rw [List.flatMap_cons, List.map_append, decodeBytes_encodeChar, ih, List.flatMap_cons]

theorem decodeText_encodeText (s : String) : decodeText (encodeText s) = s := by
  have h := decodeBytes_encodeText s
  unfold unplus at h
  rw [decodeText, Url.decode, h, Text.decodeLossy_encode, String.ofList_toList]

/-! ## Pairs -/

theorem takeWhile_ne_append {c : Char} {cs : List Char} (h : c ∉ cs) (rest : List Char) :
    (cs ++ c :: rest).takeWhile (· ≠ c) = cs := by
  rw [List.takeWhile_append_of_pos fun d hd => decide_eq_true (ne_of_mem_of_not_mem hd h)]
  simp

theorem dropWhile_ne_append {c : Char} {cs : List Char} (h : c ∉ cs) (rest : List Char) :
    (cs ++ c :: rest).dropWhile (· ≠ c) = c :: rest := by
  rw [List.dropWhile_append_of_pos fun d hd => decide_eq_true (ne_of_mem_of_not_mem hd h)]
  simp

theorem decodePair_encodePair (p : String × String) : decodePair (encodePair p) = p := by
  have h : '=' ∉ encodeText p.1 := not_mem_encodeText (by decide) p.1
  rw [encodePair, decodePair, takeWhile_ne_append h, dropWhile_ne_append h, List.tail_cons,
    decodeText_encodeText, decodeText_encodeText]

theorem not_mem_encodePair (p : String × String) : '&' ∉ encodePair p := by
  simp only [encodePair, List.mem_append, List.mem_cons, not_or]
  exact ⟨not_mem_encodeText (by decide) p.1, by decide, not_mem_encodeText (by decide) p.2⟩

theorem encodePair_ne_nil (p : String × String) : encodePair p ≠ [] := by simp [encodePair]

/-! ## Queries -/

theorem decode_add (query : List Char) (p : String × String) :
    decode ((if query = [] then [] else query ++ ['&']) ++ encodePair p) = decode query ++ [p] := by
  have hp := Text.splitAt_of_not_mem (not_mem_encodePair p)
  by_cases hq : query = []
  · subst hq
    simp [decode, hp, Text.splitAt, encodePair_ne_nil, decodePair_encodePair]
  · rw [if_neg hq, List.append_assoc, List.singleton_append, decode,
      Text.splitAt_append (not_mem_encodePair p)]
    simp [decode, encodePair_ne_nil, decodePair_encodePair]

theorem decode_append (query : List Char) (pairs : List (String × String)) :
    decode (append query pairs) = decode query ++ pairs := by
  unfold append
  induction pairs generalizing query with
  | nil => simp
  | cons p ps ih => rw [List.foldl_cons, ih, decode_add, List.append_assoc, List.singleton_append]

end Form

end NodeLabels.Url
