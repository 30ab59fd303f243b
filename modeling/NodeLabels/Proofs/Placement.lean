import NodeLabels.Placement
import NodeLabels.Proofs.Text.Blank
import NodeLabels.Proofs.Text.Split
/-!
# The grammar of placements

Which texts are taken for a placement, and for which. Reading takes the text that a placement is
written as, with or without blanks around it, and nothing else (`parse_accepts_exactly`). A host
that ends in a blank is written, but its end is trimmed when it is read.
-/

namespace NodeLabels.Placement

/-- The placement can be told from its text: no part of it is empty or has a slash. -/
structure Legible (p : Placement) : Prop where
  cluster : p.cluster ≠ "" ∧ '/' ∉ p.cluster.toList
  rack : p.rack ≠ "" ∧ '/' ∉ p.rack.toList
  host : p.host ≠ "" ∧ '/' ∉ p.host.toList

instance : DecidablePred Legible := fun p =>
  decidable_of_iff ((p.cluster ≠ "" ∧ '/' ∉ p.cluster.toList) ∧
    (p.rack ≠ "" ∧ '/' ∉ p.rack.toList) ∧ p.host ≠ "" ∧ '/' ∉ p.host.toList)
    ⟨fun h => ⟨h.1, h.2.1, h.2.2⟩, fun h => ⟨h.cluster, h.rack, h.host⟩⟩

variable {p : Placement} {raw : String}

theorem toList_text (p : Placement) : p.text.toList =
    Text.joinWith '/' [[], p.cluster.toList, p.rack.toList, p.host.toList] := by
  have htext : p.text = "/" ++ p.cluster ++ "/" ++ p.rack ++ "/" ++ p.host := rfl
  simp [htext, Text.joinWith]

theorem trim_eq_text_iff :
    Text.trim raw = p.text ↔ Text.trimChars raw.toList = p.text.toList := by
  rw [← String.toList_inj, Text.toList_trim]

/-! ## Reading -/

theorem ofText?_eq_some_iff :
    ofText? raw = some p ↔ Text.trim raw = p.text ∧ p.Legible := by
  rw [trim_eq_text_iff, toList_text]
  constructor
  · intro h
    unfold ofText? at h
    split at h
    · rename_i cluster rack host hsplit
      obtain ⟨-, hfree, hjoin⟩ := Text.splitAt_eq_iff.1 hsplit
      split at h
      · cases h
      rename_i hempty
      obtain rfl := Option.some.inj h
      simp only [Bool.or_eq_true, List.isEmpty_iff, not_or] at hempty
      obtain ⟨⟨hcluster, hrack⟩, hhost⟩ := hempty
      refine ⟨by simpa using hjoin.symm, ⟨?_, ?_⟩, ⟨?_, ?_⟩, ⟨?_, ?_⟩⟩ <;>
        simp_all [String.ext_iff]
    · cases h
  · rintro ⟨htrim, hlegible⟩
    obtain ⟨⟨hcluster, hcluster'⟩, ⟨hrack, hrack'⟩, ⟨hhost, hhost'⟩⟩ := hlegible
    have hsplit : Text.splitAt '/' (Text.trimChars raw.toList) =
        [[], p.cluster.toList, p.rack.toList, p.host.toList] :=
      Text.splitAt_eq_iff.2 ⟨by simp, by simp [hcluster', hrack', hhost'], htrim.symm⟩
    unfold ofText?
    rw [hsplit]
    simp [hcluster, hrack, hhost]

theorem parse_eq_ok_iff : parse raw = .ok p ↔ Text.trim raw = p.text ∧ p.Legible := by
  rw [← ofText?_eq_some_iff]
  unfold parse
  cases ofText? raw <;> simp

theorem parse_malformed (h : ∀ p : Placement, ¬ (Text.trim raw = p.text ∧ p.Legible)) :
    parse raw = .error (.malformed "physical host" raw) := by
  have hnone : ofText? raw = none :=
    Option.eq_none_iff_forall_ne_some.2 fun p hp => h p (ofText?_eq_some_iff.1 hp)
  rw [parse, hnone]

/-! ## Blanks -/

/-- Trimming leaves the text of a placement alone, unless its host ends in a blank. -/
theorem trim_text_iff (h : p.Legible) : Text.trim p.text = p.text ↔
    ∀ c ∈ p.host.toList.getLast?, Text.isBlank c = false := by
  have hhost : p.host.toList ≠ [] := by simpa using h.host.1
  have hlast : p.text.toList.getLast? = p.host.toList.getLast? := by
    have hend := List.getLast?_eq_some_getLast hhost
    simp [toList_text, Text.joinWith, List.getLast?_cons, List.getLast?_append, hend]
  have hfirst : ∀ c ∈ p.text.toList.head?, Text.isBlank c = false := by
    simp [toList_text, Text.joinWith]
    decide
  rw [trim_eq_text_iff, Text.trimChars_eq_self_iff, hlast]
  exact and_iff_right hfirst

theorem trim_surrounded {before after : String}
    (hbefore : ∀ c ∈ before.toList, Text.isBlank c = true)
    (hafter : ∀ c ∈ after.toList, Text.isBlank c = true) (raw : String) :
    Text.trim (before ++ raw ++ after) = Text.trim raw := by
  rw [← String.toList_inj, Text.toList_trim, Text.toList_trim, String.toList_append,
    String.toList_append, Text.trimChars_surrounded hbefore hafter]

/-- A text is read as a placement exactly if, blanks around it apart, it is the text of that
placement, and no part of the placement is empty or has a slash; any other text is reported as it
is, blanks and all. So a placement is read back from its own text unless one of its parts is empty
or has a slash, or its host ends in a blank; blanks around a text make no difference; and what was
read once is read again from the text that is written for it. -/
theorem parse_accepts_exactly :
    (∀ raw p, parse raw = .ok p ↔ Text.trim raw = p.text ∧ p.Legible) ∧
    (∀ raw, (∀ p, parse raw ≠ .ok p) → parse raw = .error (.malformed "physical host" raw)) ∧
    (∀ p : Placement, parse p.text = .ok p ↔
      p.Legible ∧ ∀ c ∈ p.host.toList.getLast?, Text.isBlank c = false) ∧
    (∀ raw p before after, parse raw = .ok p →
      (∀ c ∈ before.toList, Text.isBlank c = true) →
      (∀ c ∈ after.toList, Text.isBlank c = true) → parse (before ++ raw ++ after) = .ok p) ∧
    (∀ raw p, parse raw = .ok p → parse p.text = .ok p) := by
  refine ⟨fun raw p => parse_eq_ok_iff, ?_, ?_, ?_, ?_⟩
  · intro raw hnot
    exact parse_malformed fun p hp => hnot p (parse_eq_ok_iff.2 hp)
  · intro p
    rw [parse_eq_ok_iff, and_comm]
    exact and_congr_right trim_text_iff
  · intro raw p before after hp hbefore hafter
    rw [parse_eq_ok_iff] at hp ⊢
    rwa [trim_surrounded hbefore hafter]
  · intro raw p hp
    rw [parse_eq_ok_iff] at hp ⊢
    obtain ⟨htrim, hlegible⟩ := hp
    refine ⟨?_, hlegible⟩
    rw [← htrim, ← String.toList_inj, Text.toList_trim, Text.toList_trim,
      Text.trimChars_trimChars]

/-- A placement with a blank inside, in a text with blanks around it. -/
theorem parse_surrounded :
    parse " /c/r/h 7\n" = .ok { cluster := "c", rack := "r", host := "h 7" } ∧
    parse ("\u3000" ++ " /c/r/h 7\n" ++ "\u0085") =
      .ok { cluster := "c", rack := "r", host := "h 7" } ∧
    parse "/c/r/h 7" = .ok { cluster := "c", rack := "r", host := "h 7" } ∧
    (∀ p, parse " /c//h" ≠ .ok p) ∧
    parse " /c//h" = .error (.malformed "physical host" " /c//h") := by
  obtain ⟨hiff, hmalformed, -, hsurrounded, hagain⟩ := parse_accepts_exactly
  have hparse : parse " /c/r/h 7\n" = .ok { cluster := "c", rack := "r", host := "h 7" } :=
    (hiff _ _).2 (by decide +kernel)
  have hnone : ∀ p, parse " /c//h" ≠ .ok p := by
    intro p hp
    have hread : ofText? " /c//h" = none := by decide +kernel
    cases hread.symm.trans (ofText?_eq_some_iff.2 ((hiff _ _).1 hp))
  have hbefore : "\u3000".toList.all Text.isBlank = true := by decide +kernel
  have hafter : "\u0085".toList.all Text.isBlank = true := by decide +kernel
  exact ⟨hparse, hsurrounded _ _ _ _ hparse (List.all_eq_true.1 hbefore)
    (List.all_eq_true.1 hafter), hagain _ _ hparse, hnone, hmalformed _ hnone⟩

end NodeLabels.Placement
