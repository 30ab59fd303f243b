import Mathlib.Data.List.TakeDrop
import NodeLabels.Json.Parser
import NodeLabels.Proofs.Text.Digits
import NodeLabels.Proofs.Text.Utf8
/-!
# Documents are read as they were written

The text of a document, with whatever may follow a document behind it, is read as that document, so
the body of a message that was written from a document holds it (`ofBytes?_bytes`). The only
condition is that what stands behind the points of its numbers are digits.
-/

namespace NodeLabels.Json

variable {rest : List Char}

/-! ## Numbers -/

/-- What follows cannot be taken for more of a number. -/
def EndsNumber (rest : List Char) : Prop :=
  ∀ c ∈ rest.head?, c.isDigit = false ∧ c ≠ '.' ∧ c ≠ 'e' ∧ c ≠ 'E'

theorem digitsOf_append {ds : List Char} (hds : ∀ c ∈ ds, c.isDigit = true)
    (hrest : ∀ c ∈ rest.head?, c.isDigit = false) : digitsOf (ds ++ rest) = (ds, rest) := by
  have hnone : rest.takeWhile Char.isDigit = [] ∧ rest.dropWhile Char.isDigit = rest := by
    cases rest with
    | nil => exact ⟨rfl, rfl⟩
    | cons c cs => simp [hrest c (by simp)]
  rw [digitsOf, List.span_eq_takeWhile_dropWhile, List.takeWhile_append_of_pos hds,
    List.dropWhile_append_of_pos hds, hnone.1, hnone.2, List.append_nil]

theorem digitsOf_toDigits (n : Nat) (hrest : ∀ c ∈ rest.head?, c.isDigit = false) :
    digitsOf (Nat.toDigits 10 n ++ rest) = (Nat.toDigits 10 n, rest) :=
  digitsOf_append (Text.isDigit_of_mem_toDigits n) hrest

/-- The digits of a number begin with one, and with a zero only if that is all. -/
theorem toDigits_cons (n : Nat) : ∃ d ds, Nat.toDigits 10 n = d :: ds ∧ d.isDigit = true ∧
    ¬ (d = '0' ∧ ds ≠ []) := by
  obtain ⟨d, ds, hds⟩ := List.exists_cons_of_ne_nil (Nat.toDigits_ne_nil (n := n) (b := 10))
  refine ⟨d, ds, hds, Text.isDigit_of_mem_toDigits n d (by simp [hds]), ?_⟩
  rintro ⟨rfl, hne⟩
  rcases Nat.eq_zero_or_pos n with rfl | hpos
  · exact hne (List.cons.inj hds).2.symm
  · exact Text.head?_toDigits hpos (by rw [hds]; rfl)

theorem fraction?_append {ds : List Char} (hds : ∀ c ∈ ds, c.isDigit = true)
    (hrest : ∀ c ∈ rest.head?, c.isDigit = false ∧ c ≠ '.') :
    fraction? ((if ds = [] then [] else '.' :: ds) ++ rest) = some (ds, rest) := by
  cases ds with
  | nil =>
    cases rest with
    | nil => rfl
    | cons c cs =>
      have hdot : c ≠ '.' := (hrest c rfl).2
      simp [fraction?, hdot]
  | cons d ds =>
    have hdigits := digitsOf_append hds fun c hc => (hrest c hc).1
    simp only [List.cons_append] at hdigits
    simp [fraction?, hdigits]

/-- The text of an exponent. -/
def exponentChars : Option Int → List Char
  | none => []
  | some e => 'e' :: (if e < 0 then ['-'] else []) ++ Nat.toDigits 10 e.natAbs

theorem signOf_toDigits (n : Nat) (rest : List Char) :
    signOf (Nat.toDigits 10 n ++ rest) = (false, Nat.toDigits 10 n ++ rest) := by
  obtain ⟨d, ds, hds, hd, -⟩ := toDigits_cons n
  rw [hds, List.cons_append, signOf.eq_def]
  split
  · exact absurd hd (by simp_all)
  · exact absurd hd (by simp_all)
  · rfl

theorem exponent?_append (exponent : Option Int) (hrest : EndsNumber rest) :
    exponent? (exponentChars exponent ++ rest) = some (exponent, rest) := by
  cases exponent with
  | none =>
    cases rest with
    | nil => rfl
    | cons c cs =>
      obtain ⟨-, -, he, hE⟩ := hrest c rfl
      simp [exponentChars, exponent?, he, hE]
  | some e =>
    have hdigits := digitsOf_toDigits e.natAbs fun c hc => (hrest c hc).1
    have hne : Nat.toDigits 10 e.natAbs ≠ [] := Nat.toDigits_ne_nil
    by_cases hneg : e < 0
    · have habs : -(e.natAbs : Int) = e := by omega
      simp only [exponentChars, if_pos hneg, List.cons_append, List.nil_append, exponent?, true_or,
        if_true, signOf, hdigits, if_neg hne, Text.decimal_toDigits, habs]
    · have habs : (e.natAbs : Int) = e := by omega
      simp only [exponentChars, if_neg hneg, List.cons_append, List.nil_append, exponent?, true_or,
        if_true, signOf_toDigits, hdigits, if_neg hne, Text.decimal_toDigits, habs,
        Bool.false_eq_true, if_false]

theorem endsNumber_head?_exponentChars (exponent : Option Int) (hrest : EndsNumber rest) :
    ∀ c ∈ (exponentChars exponent ++ rest).head?, c.isDigit = false ∧ c ≠ '.' := by
  cases exponent with
  | none => exact fun c hc => ⟨(hrest c hc).1, (hrest c hc).2.1⟩
  | some e => simp [exponentChars]

theorem unsigned?_append {n : Number} (hn : n.fraction.all Char.isDigit = true)
    (hrest : EndsNumber rest) : unsigned? n.negative (Nat.toDigits 10 n.whole ++
      ((if n.fraction = [] then [] else '.' :: n.fraction) ++
        (exponentChars n.exponent ++ rest))) = some (n, rest) := by
  have hfraction : ∀ c ∈ n.fraction, c.isDigit = true := List.all_eq_true.1 hn
  have hexponent := endsNumber_head?_exponentChars n.exponent hrest
  have hpoint : ∀ c ∈ ((if n.fraction = [] then [] else '.' :: n.fraction) ++
      (exponentChars n.exponent ++ rest)).head?, c.isDigit = false := by
    split
    · exact fun c hc => (hexponent c hc).1
    · simp
  have hzero : ¬ (Nat.toDigits 10 n.whole = [] ∨
      ((Nat.toDigits 10 n.whole).head? = some '0' ∧ (Nat.toDigits 10 n.whole).length > 1)) := by
    obtain ⟨d, ds, hds, -, hlead⟩ := toDigits_cons n.whole
    cases ds <;> simp_all
  simp only [unsigned?, digitsOf_toDigits n.whole hpoint, if_neg hzero,
    fraction?_append hfraction hexponent, exponent?_append n.exponent hrest, Text.decimal_toDigits,
    Option.bind_eq_bind, Option.bind_some]
  rfl

theorem number?_append {n : Number} (hn : n.fraction.all Char.isDigit = true)
    (hrest : EndsNumber rest) : number? (n.chars ++ rest) = some (n, rest) := by
  have hchars : n.chars ++ rest = (if n.negative then ['-'] else []) ++
      (Nat.toDigits 10 n.whole ++ ((if n.fraction = [] then [] else '.' :: n.fraction) ++
        (exponentChars n.exponent ++ rest))) := by
    simp only [Number.chars, List.append_assoc]
    rfl
  have hunsigned := unsigned?_append hn hrest
  rw [hchars]
  cases hsign : n.negative with
  | true =>
    rw [hsign] at hunsigned
    exact hunsigned
  | false =>
    obtain ⟨d, ds, hds, hd, -⟩ := toDigits_cons n.whole
    rw [hsign, hds, List.cons_append] at hunsigned
    rw [hds, if_neg Bool.false_ne_true, List.nil_append, List.cons_append, number?.eq_def]
    split
    · exact absurd hd (by simp_all)
    · exact hunsigned

/-! ## Strings -/

theorem unitOf?_low : ∀ n < 16, unitOf? '0' '0' '0' (Nat.digitChar n) = some n := by decide

theorem unitOf?_high : ∀ n < 16, unitOf? '0' '0' '1' (Nat.digitChar n) = some (16 + n) := by decide

theorem ofUnit_toNat {c : Char} (h : c.toNat < 32) : Piece.ofUnit c.toNat = .char c := by
  rw [Piece.ofUnit, if_neg (by omega), if_neg (by omega), Char.ofNat_toNat]

theorem pieces?_simple {e c : Char} (h : simpleEscape? e = some c) (hu : e ≠ 'u')
    (rest : List Char) :
    pieces? ('\\' :: e :: rest) = (pieces? rest).map fun p => (.char c :: p.1, p.2) := by
  rw [pieces?]
  · cases pieces? rest <;> simp [h]
  · simp [hu]

theorem pieces?_unit {a b c d : Char} {n : Nat} (h : unitOf? a b c d = some n)
    (rest : List Char) : pieces? ('\\' :: 'u' :: a :: b :: c :: d :: rest) =
      (pieces? rest).map fun p => (.ofUnit n :: p.1, p.2) := by
  rw [pieces?]
  cases pieces? rest <;> simp [h]

theorem pieces?_plain {c : Char} (hc : 32 ≤ c.toNat) (hquote : c ≠ '"') (hback : c ≠ '\\')
    (rest : List Char) :
    pieces? (c :: rest) = (pieces? rest).map fun p => (.char c :: p.1, p.2) := by
  have hplain : ¬ (c.toNat < 32 ∨ c = '\\') := by
    rintro (hlt | heq)
    · omega
    · exact hback heq
  rw [pieces?]
  · rw [if_neg hplain]
    cases pieces? rest <;> rfl
  · exact hquote
  · simp [hback]
  · simp [hback]

theorem pieces?_escapeChar (c : Char) (rest : List Char) :
    pieces? (escapeChar c ++ rest) = (pieces? rest).map fun p => (.char c :: p.1, p.2) := by
  by_cases hshort : c ∈ ['"', '\\', '\n', '\r', '\t', '\x08', '\x0c']
  · simp only [List.mem_cons, List.not_mem_nil, or_false] at hshort
    rcases hshort with rfl | rfl | rfl | rfl | rfl | rfl | rfl <;>
      exact pieces?_simple rfl (by decide) rest
  · simp only [List.mem_cons, List.not_mem_nil, or_false, not_or] at hshort
    obtain ⟨hquote, hback, hn, hr, ht, hb, hf⟩ := hshort
    rw [escapeChar, if_neg hquote, if_neg hback, if_neg hn, if_neg hr, if_neg ht, if_neg hb,
      if_neg hf]
    split
    · next hc =>
      rw [← ofUnit_toNat (c := c) (by omega)]
      exact pieces?_unit (unitOf?_low _ hc) rest
    split
    · next hlow hc =>
      have hunit := unitOf?_high (c.toNat - 16) (by omega)
      have hsum : 16 + (c.toNat - 16) = c.toNat := by omega
      rw [hsum] at hunit
      rw [← ofUnit_toNat hc]
      exact pieces?_unit hunit rest
    · next hc => exact pieces?_plain (by omega) hquote hback rest

theorem pieces?_append (cs rest : List Char) :
    pieces? (cs.flatMap escapeChar ++ '"' :: rest) = some (cs.map .char, rest) := by
  induction cs with
  | nil => simp [pieces?]
  | cons c cs ih => simp [pieces?_escapeChar, ih]

theorem joinPieces?_map (cs : List Char) : joinPieces? (cs.map .char) = some cs := by
  induction cs with
  | nil => rfl
  | cons c cs ih => simp [joinPieces?, ih]

theorem string?_append (s : String) (rest : List Char) :
    string? (s.toList.flatMap escapeChar ++ '"' :: rest) = some (some s, rest) := by
  simp [string?, pieces?_append, joinPieces?_map]

/-! ## Documents -/

mutual

/-- What stands behind the points of the numbers in a document are digits. -/
def isWritable : Json → Bool
  | .number n => n.fraction.all Char.isDigit
  | .array items => itemsWritable items
  | .object members => membersWritable members
  | _ => true

def itemsWritable : List Json → Bool
  | [] => true
  | item :: items => isWritable item && itemsWritable items

def membersWritable : List (String × Json) → Bool
  | [] => true
  | (_, value) :: members => isWritable value && membersWritable members

end

theorem itemsWritable_eq (items : List Json) : itemsWritable items = items.all isWritable := by
  induction items with
  | nil => rfl
  | cons item items ih => rw [itemsWritable, List.all_cons, ih]

theorem membersWritable_eq (members : List (String × Json)) :
    membersWritable members = members.all fun m => isWritable m.2 := by
  induction members with
  | nil => rfl
  | cons m ms ih => rw [membersWritable, List.all_cons, ih]

theorem skipBlanks_cons {c : Char} (h : isBlank c = false) (cs : List Char) :
    skipBlanks (c :: cs) = c :: cs := List.dropWhile_cons_of_neg (by simp [h])

theorem endsNumber_cons {c : Char} (h : c = ',' ∨ c = ']' ∨ c = '\x7d') (cs : List Char) :
    EndsNumber (c :: cs) := by
  rcases h with rfl | rfl | rfl <;> simp [EndsNumber]

theorem Number.chars_cons (n : Number) :
    ∃ c cs, n.chars = c :: cs ∧ (c = '-' ∨ c.isDigit = true) := by
  obtain ⟨d, ds, hds, hd, -⟩ := toDigits_cons n.whole
  cases hsign : n.negative with
  | true => exact ⟨'-', _, by simp only [chars, hsign]; rfl, .inl rfl⟩
  | false => exact ⟨d, _, by simp only [chars, hsign, hds]; rfl, .inr hd⟩

/-- Nothing but a number begins with a minus or a digit. -/
theorem ne_of_beginsNumber {c : Char} (h : c = '-' ∨ c.isDigit = true) : isBlank c = false ∧
    c ≠ '"' ∧ c ≠ '[' ∧ c ≠ '\x7b' ∧ c ≠ 'n' ∧ c ≠ 't' ∧ c ≠ 'f' ∧ c ≠ ']' := by
  rcases h with rfl | hdigit
  · decide
  · have hne {d : Char} (hd : d.isDigit = false) : c ≠ d := fun heq => by simp_all
    refine ⟨?_, hne rfl, hne rfl, hne rfl, hne rfl, hne rfl, hne rfl, hne rfl⟩
    simp [isBlank, hne (d := ' ') rfl, hne (d := '\n') rfl, hne (d := '\t') rfl,
      hne (d := '\r') rfl]

/-- A document begins with a character that is neither blank nor the end of an array. -/
theorem chars_cons (j : Json) : ∃ c cs, j.chars = c :: cs ∧ isBlank c = false ∧ c ≠ ']' := by
  cases j with
  | null => exact ⟨_, _, rfl, by decide, by decide⟩
  | bool b => cases b <;> exact ⟨_, _, rfl, by decide, by decide⟩
  | number n =>
    obtain ⟨c, cs, hcs, hc⟩ := n.chars_cons
    obtain ⟨hblank, -, -, -, -, -, -, hend⟩ := ne_of_beginsNumber hc
    exact ⟨c, cs, hcs, hblank, hend⟩
  | string s => exact ⟨_, _, rfl, by decide, by decide⟩
  | stray => exact ⟨_, _, rfl, by decide, by decide⟩
  | array items => exact ⟨_, _, rfl, by decide, by decide⟩
  | object members => exact ⟨_, _, rfl, by decide, by decide⟩

theorem value?_number {n : Number} (hn : n.fraction.all Char.isDigit = true)
    (hrest : EndsNumber rest) (fuel : Nat) :
    value? (fuel + 1) (n.chars ++ rest) = some (.number n, rest) := by
  have hnumber := number?_append hn hrest
  obtain ⟨c, cs, hcs, hc⟩ := n.chars_cons
  obtain ⟨hblank, hne⟩ := ne_of_beginsNumber hc
  rw [hcs, List.cons_append] at hnumber ⊢
  rw [value?, skipBlanks_cons hblank]
  split <;> simp_all

theorem value?_string (s : String) (rest : List Char) (fuel : Nat) :
    value? (fuel + 1) (stringChars s ++ rest) = some (.string s, rest) := by
  have hstring := string?_append s rest
  have hchars : stringChars s ++ rest = '"' :: (s.toList.flatMap escapeChar ++ '"' :: rest) := by
    simp [stringChars]
  rw [hchars, value?, skipBlanks_cons (by decide)]
  simp [hstring]

theorem ofMembers_map (members : List (String × Json)) :
    ofMembers (members.map fun m => (some m.1, m.2)) = .object members := by
  have hmapM : (members.map fun m => (some m.1, m.2)).mapM (fun m => m.1.map (·, m.2)) =
      some members := by
    induction members with
    | nil => rfl
    | cons m ms ih => simp [List.mapM_cons, ih]
  rw [ofMembers, hmapM]

mutual

theorem value?_append : (j : Json) → isWritable j = true → (fuel : Nat) →
    2 * j.chars.length ≤ fuel → (rest : List Char) → EndsNumber rest →
    value? fuel (j.chars ++ rest) = some (j, rest)
  | j, _, 0, hfuel, _, _ => by
    obtain ⟨c, cs, hcs, -⟩ := chars_cons j
    simp [hcs] at hfuel
  | .null, _, _ + 1, _, _, _ => rfl
  | .bool true, _, _ + 1, _, _, _ => rfl
  | .bool false, _, _ + 1, _, _, _ => rfl
  | .number _, hn, fuel + 1, _, _, hrest => value?_number hn hrest fuel
  | .string s, _, fuel + 1, _, rest, _ => value?_string s rest fuel
  | .stray, _, _ + 1, _, _, _ => rfl
  | .array [], _, _ + 1, _, _, _ => rfl
  | .array (item :: items), hitems, fuel + 1, hfuel, rest, _ => by
    have hlength : 2 * (itemsChars (item :: items)).length ≤ fuel := by
      simp only [chars, List.length_cons] at hfuel ⊢
      omega
    have hread := items?_append item items hitems fuel hlength rest
    obtain ⟨c, cs, hcs, hblank, hend⟩ : ∃ c cs, itemsChars (item :: items) ++ rest = c :: cs ∧
        isBlank c = false ∧ c ≠ ']' := by
      obtain ⟨c, cs, hcs, h⟩ := chars_cons item
      cases items <;> exact ⟨c, _, by simp only [itemsChars, hcs]; rfl, h⟩
    rw [hcs] at hread
    rw [chars, List.cons_append, hcs, value?, skipBlanks_cons (by decide)]
    simp [skipBlanks_cons hblank, hend, hread]
  | .object [], _, _ + 1, _, _, _ => rfl
  | .object (m :: ms), hmembers, fuel + 1, hfuel, rest, _ => by
    have hlength : 2 * (membersChars (m :: ms)).length ≤ fuel := by
      simp only [chars, List.length_cons] at hfuel ⊢
      omega
    have hread := members?_append m ms hmembers fuel hlength rest
    obtain ⟨cs, hcs⟩ : ∃ cs, membersChars (m :: ms) ++ rest = '"' :: cs := by
      cases ms <;> exact ⟨_, rfl⟩
    have hmap := ofMembers_map (m :: ms)
    rw [List.map_cons] at hmap
    rw [hcs] at hread
    rw [chars, List.cons_append, hcs, value?, skipBlanks_cons (by decide)]
    simp [skipBlanks_cons (c := '"') (by decide), hread, hmap]

theorem items?_append : (item : Json) → (items : List Json) → itemsWritable (item :: items) = true →
    (fuel : Nat) → 2 * (itemsChars (item :: items)).length ≤ fuel → (rest : List Char) →
    items? fuel (itemsChars (item :: items) ++ rest) = some (item :: items, rest)
  | item, items, _, 0, hfuel, _ => by
    cases items <;> simp [itemsChars] at hfuel
  | item, [], hitems, fuel + 1, hfuel, rest => by
    simp only [itemsWritable, Bool.and_true] at hitems
    simp only [itemsChars, List.length_append, List.length_cons] at hfuel
    have hitem := value?_append item hitems fuel (by omega) (']' :: rest)
      (endsNumber_cons (by simp) _)
    rw [itemsChars, List.append_assoc, List.singleton_append, items?, hitem]
    simp [skipBlanks_cons (c := ']') (by decide)]
  | item, next :: items, hitems, fuel + 1, hfuel, rest => by
    rw [itemsWritable, Bool.and_eq_true] at hitems
    simp only [itemsChars, List.length_append, List.length_cons] at hfuel
    have hitem := value?_append item hitems.1 fuel (by omega)
      (',' :: (itemsChars (next :: items) ++ rest)) (endsNumber_cons (by simp) _)
    have hnext := items?_append next items hitems.2 fuel (by omega) rest
    rw [itemsChars, List.append_assoc, List.cons_append, items?, hitem]
    simp [skipBlanks_cons (c := ',') (by decide), hnext]

theorem members?_append : (m : String × Json) → (ms : List (String × Json)) →
    membersWritable (m :: ms) = true → (fuel : Nat) →
    2 * (membersChars (m :: ms)).length ≤ fuel → (rest : List Char) →
    members? fuel (membersChars (m :: ms) ++ rest) =
      some ((m :: ms).map fun m => (some m.1, m.2), rest)
  | (key, value), ms, _, 0, hfuel, _ => by
    cases ms <;> simp [membersChars] at hfuel
  | (key, value), [], hmembers, fuel + 1, hfuel, rest => by
    simp only [membersWritable, Bool.and_true] at hmembers
    simp only [membersChars, List.length_append, List.length_cons] at hfuel
    have hvalue := value?_append value hmembers fuel (by omega) ('\x7d' :: rest)
      (endsNumber_cons (by simp) _)
    have hkey := string?_append key (':' :: (value.chars ++ '\x7d' :: rest))
    have hchars : membersChars [(key, value)] ++ rest = '"' :: (key.toList.flatMap escapeChar ++
        '"' :: ':' :: (value.chars ++ '\x7d' :: rest)) := by
      simp [membersChars, stringChars]
    rw [hchars, members?, skipBlanks_cons (by decide)]
    simp [skipBlanks_cons (c := ':') (by decide), hkey, hvalue,
      skipBlanks_cons (c := '\x7d') (by decide)]
  | (key, value), next :: ms, hmembers, fuel + 1, hfuel, rest => by
    rw [membersWritable, Bool.and_eq_true] at hmembers
    simp only [membersChars, List.length_append, List.length_cons] at hfuel
    have hvalue := value?_append value hmembers.1 fuel (by omega)
      (',' :: (membersChars (next :: ms) ++ rest)) (endsNumber_cons (by simp) _)
    have hnext := members?_append next ms hmembers.2 fuel (by omega) rest
    have hkey := string?_append key
      (':' :: (value.chars ++ ',' :: (membersChars (next :: ms) ++ rest)))
    have hchars : membersChars ((key, value) :: next :: ms) ++ rest =
        '"' :: (key.toList.flatMap escapeChar ++
          '"' :: ':' :: (value.chars ++ ',' :: (membersChars (next :: ms) ++ rest))) := by
      simp [membersChars, stringChars]
    rw [hchars, members?, skipBlanks_cons (by decide)]
    simp [skipBlanks_cons (c := ':') (by decide), hkey, hvalue,
      skipBlanks_cons (c := ',') (by decide), hnext]

end

theorem ofChars?_chars {j : Json} (hj : isWritable j = true) : ofChars? j.chars = some j := by
  have hvalue := value?_append j hj (2 * j.chars.length + 1) (by omega) [] (by simp [EndsNumber])
  rw [List.append_nil] at hvalue
  simp only [ofChars?, hvalue, Option.bind_eq_bind, Option.bind_some]
  exact if_pos rfl

/-- The body that was written from a document holds it. -/
theorem ofBytes?_bytes {j : Json} (hj : isWritable j = true) : ofBytes? j.bytes = some j := by
  rw [ofBytes?, bytes, Text.decodeWith_encode, ofChars?_chars hj]

end NodeLabels.Json
