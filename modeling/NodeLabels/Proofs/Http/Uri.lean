import NodeLabels.Http.Uri
import NodeLabels.Proofs.Url.Segments
/-!
# Addresses of URLs

Path and query of a URL that was read are made of characters that a request takes, so whether the
address can be sent depends on its length and on the host alone (`isSendable_iff`).
-/

namespace NodeLabels.Http.Uri

open Url (encodeSet inPathSet inQuerySet optionalPart)

variable {c : Char}

/-! ## Characters -/

theorem toNat_lt_of_isWritten (h : Url.Form.isWritten c = true) : c.toNat < 128 := by
  simp only [Url.Form.isWritten, Url.Form.isSafe, Bool.or_eq_true, Bool.and_eq_true,
    decide_eq_true_eq] at h
  rcases h with (((((⟨-, h⟩ | rfl) | rfl) | rfl) | rfl) | rfl) | rfl
  · exact h
  all_goals decide

theorem toNat_lt_of_not_isControl (h : Url.isControl c = false) : c.toNat < 128 := by
  simp only [Url.isControl, Bool.or_eq_false_iff, decide_eq_false_iff_not] at h
  omega

/-- What holds of the characters that an encoded part is written in holds of all its characters. -/
theorem of_mem_encodeSet {set allowed : Char → Bool} {cs : List Char}
    (hset : ∀ c, set c = false → Url.isControl c = false)
    (hascii : ∀ n < 128, Url.Form.isWritten (Char.ofNat n) = true ∨ set (Char.ofNat n) = false →
      allowed (Char.ofNat n) = true) (h : c ∈ encodeSet set cs) : allowed c = true := by
  have hlt : c.toNat < 128 → Url.Form.isWritten c = true ∨ set c = false → allowed c = true :=
    Text.of_ascii (p := fun c => Url.Form.isWritten c = true ∨ set c = false → allowed c = true)
      hascii
  rcases Url.mem_encodeSet h with hwritten | ⟨hfree, -⟩
  · exact hlt (toNat_lt_of_isWritten hwritten) (.inl hwritten)
  · exact hlt (toNat_lt_of_not_isControl (hset c hfree)) (.inr hfree)

theorem isPathChar_of_mem_encodeSet {cs : List Char} (h : c ∈ encodeSet inPathSet cs) :
    isPathChar c = true :=
  of_mem_encodeSet (fun _ hfree => (Bool.or_eq_false_iff.1 (Bool.or_eq_false_iff.1 hfree).1).1)
    (by decide) h

theorem isQueryChar_of_mem_encodeSet {cs : List Char} (h : c ∈ encodeSet (inQuerySet true) cs) :
    isQueryChar c = true :=
  of_mem_encodeSet (fun _ hfree => (Bool.or_eq_false_iff.1 (Bool.or_eq_false_iff.1 hfree).1).1)
    (by decide) h

theorem isPathChar_of_mem_segments {cs : List Char}
    (h : c ∈ (Url.Path.segments (Url.segments true cs)).chars) : isPathChar c = true := by
  rcases Url.mem_chars h with rfl | ⟨p, hp, hc⟩
  · decide
  rcases Url.mem_resolve hp with rfl | hp | hp
  · exact absurd hc List.not_mem_nil
  · exact absurd hp List.not_mem_nil
  · obtain ⟨raw, -, rfl⟩ := List.mem_map.1 hp
    exact isPathChar_of_mem_encodeSet hc

/-! ## Addresses -/

section

variable {site path : List Char} {query fragment : Option (List Char)}
  (hpath : ∀ c ∈ path, isPathChar c = true) (hquery : ∀ q ∈ query, ∀ c ∈ q, isQueryChar c = true)

include hpath hquery

/-- Of a path and a query in characters that a request takes, all is sent. -/
theorem sentPart_eq :
    sentPart (path ++ optionalPart '?' query ++ optionalPart '#' fragment) =
      path ++ optionalPart '?' query := by
  have hkeep : ∀ c ∈ path ++ optionalPart '?' query, decide (c ≠ '#') = true := by
    refine fun c hc => decide_eq_true ?_
    rintro rfl
    rcases List.mem_append.1 hc with hc | hc
    · exact absurd (hpath _ hc) (by decide)
    cases query with
    | none => exact absurd hc List.not_mem_nil
    | some q =>
      have hmark : '#' ∈ q := (List.mem_cons.1 hc).resolve_left (by decide)
      exact absurd (hquery q rfl _ hmark) (by decide)
  rw [sentPart, List.takeWhile_append_of_pos hkeep]
  cases fragment <;> simp [optionalPart]

theorem isSendable_iff :
    isSendable site (path ++ optionalPart '?' query ++ optionalPart '#' fragment) = true ↔
      (Text.encode (site ++ (path ++ optionalPart '?' query ++
        optionalPart '#' fragment))).length ≤ longest ∧ ∀ c ∈ site, isSiteChar c = true := by
  have hfront : ∀ c ∈ path, decide (c ≠ '?') = true := fun c hc => by
    refine decide_eq_true ?_
    rintro rfl
    exact absurd (hpath _ hc) (by decide)
  have htake : (path ++ optionalPart '?' query).takeWhile (· ≠ '?') = path := by
    rw [List.takeWhile_append_of_pos hfront]
    cases query <;> simp [optionalPart]
  have hdrop : ((path ++ optionalPart '?' query).dropWhile (· ≠ '?')).tail = query.getD [] := by
    rw [List.dropWhile_append_of_pos hfront]
    cases query <;> simp [optionalPart]
  have hrest : (query.getD []).all isQueryChar = true := by
    cases query with
    | none => rfl
    | some q => exact List.all_eq_true.2 (hquery q rfl)
  unfold isSendable
  simp only [sentPart_eq hpath hquery, htake, hdrop, hrest, List.all_eq_true.2 hpath,
    Bool.and_true, Bool.and_eq_true, decide_eq_true_eq, List.all_eq_true]

end

end NodeLabels.Http.Uri
