import NodeLabels.Proofs.Config.Fields
/-!
# Configurations over the defaults

A document is laid over the default configuration setting by setting: a setting that the document
gives takes the value that is given, and one that it does not give keeps its default
(`ofNode?_eq_some_iff_given`). Nothing else of the document matters.
-/

namespace NodeLabels.Config

variable {α : Type} {n n' v : Yaml.Node} {c : Config}

namespace Field

/-- The document has this value for the setting, in the part that the setting belongs to. -/
def Given (n : Yaml.Node) (f : Field α) (v : Yaml.Node) : Prop :=
  match f.part? with
  | none => n.Holds f.key v
  | some part => ∃ m, n.Holds part.key m ∧ m.Holds f.key v

variable {f : Field α} {part : Part}

theorem given_of_part (h : f.part? = some part) :
    f.Given n v ↔ ∃ m, n.Holds part.key m ∧ m.Holds f.key v := by
  rw [Given, h]

theorem given_of_no_part (h : f.part? = none) : f.Given n v ↔ n.Holds f.key v := by
  rw [Given, h]

theorem key_mem_keys (h : f.part? = none) : f.key ∈ keys := by
  cases f <;> cases h
  decide

theorem key_mem_part (h : f.part? = some part) : f.key ∈ part.keys := by
  cases f <;> cases h <;> decide

theorem part_key_ne (h : f.part? = none) : f.key ≠ part.key := by
  cases f <;> cases h
  cases part <;> decide

end Field

theorem Part.key_mem_keys (part : Part) : part.key ∈ Config.keys := by
  cases part <;> decide

theorem Part.key_injective {part part' : Part} (h : part.key = part'.key) : part = part' := by
  revert h
  cases part <;> cases part' <;> decide

theorem Field.value?_eq_some_iff (h : IsDocument n) {f : Field α} :
    f.value? n = some v ↔ f.Given n v := by
  cases hpart : f.part? with
  | none =>
    rw [given_of_no_part hpart, value?, hpart]
    exact Yaml.Node.value?_eq_some_iff h.isRecord (key_mem_keys hpart)
  | some part =>
    rw [given_of_part hpart, value?, hpart]
    simp only [Option.bind_eq_bind, Option.bind_eq_some_iff,
      Yaml.Node.value?_eq_some_iff h.isRecord part.key_mem_keys]
    exact exists_congr fun m => and_congr_right fun hm =>
      Yaml.Node.value?_eq_some_iff (h.parts part m hm) (key_mem_part hpart)

theorem ofNode?_eq_some_iff_given (h : IsDocument n) : ofNode? n = some c ↔
    ∀ {α : Type} (f : Field α), (∀ v, f.Given n v → f.read? v = some (f.get c)) ∧
      ((∀ v, ¬ f.Given n v) → f.get c = f.get default) := by
  rw [ofNode?_eq_some_iff h]
  refine forall_congr' fun α => forall_congr' fun f => ?_
  simp only [← Field.value?_eq_some_iff h]
  cases f.value? n <;> simp [Yaml.Node.orElse, eq_comm]

/-- The configuration with these values of its settings. -/
def ofValues (value : ∀ {α : Type}, Field α → α) : Config where
  topology := { interval := value .interval }
  predictor := { projectId := value .projectId, labelSelector := value .labelSelector,
                 window := value .window }
  cloud := { metadataUrl := value .metadataUrl, computeUrl := value .computeUrl,
             monitoringUrl := value .monitoringUrl, requestTimeout := value .requestTimeout }
  metrics := { enabled := value .enabled, port := (value .port : { n : Nat // n < 65536 }),
               port_lt := (value .port : { n : Nat // n < 65536 }).2 }
  dryRun := value .dryRun

@[simp] theorem get_ofValues (value : ∀ {α : Type}, Field α → α) (f : Field α) :
    f.get (ofValues value) = value f := by
  cases f <;> rfl

theorem exists_ofNode? (h : IsDocument n)
    (hread : ∀ {α : Type} (f : Field α) (v : Yaml.Node), f.Given n v → (f.read? v).isSome = true) :
    ∃ c, ofNode? n = some c := by
  let value {α : Type} (f : Field α) : α :=
    (Yaml.Node.orElse f.read? (f.get default) (f.value? n)).getD (f.get default)
  refine ⟨ofValues value, (ofNode?_eq_some_iff h).2 fun {α} f => ?_⟩
  rw [get_ofValues]
  dsimp only [value]
  cases hv : f.value? n with
  | none => rfl
  | some v =>
    obtain ⟨a, ha⟩ := Option.isSome_iff_exists.1 (hread f v ((Field.value?_eq_some_iff h).1 hv))
    simp [Yaml.Node.orElse, ha]

theorem ofNode?_eq_none (h : IsDocument n) {f : Field α} (hgiven : f.Given n v)
    (hread : f.read? v = none) : ofNode? n = none := by
  refine Option.eq_none_iff_forall_ne_some.2 fun c hc => ?_
  have := ((ofNode?_eq_some_iff_given h).1 hc f).1 v hgiven
  rw [hread] at this
  cases this

theorem ofNode?_congr (h : IsDocument n) (h' : IsDocument n')
    (hsame : ∀ {α : Type} (f : Field α) (v : Yaml.Node), f.Given n v ↔ f.Given n' v) :
    ofNode? n = ofNode? n' := by
  refine Option.ext fun c => ?_
  rw [ofNode?_eq_some_iff_given h, ofNode?_eq_some_iff_given h']
  simp only [hsame]

/-! ## A part that says nothing new -/

section

variable {before after : List (Yaml.Node × Yaml.Node)} {key m : Yaml.Node} {part : Part}

theorem IsDocument.remove (h : IsDocument (.mapping (before ++ (key, m) :: after))) :
    IsDocument (.mapping (before ++ after)) := by
  have hsub : (before ++ after).Sublist (before ++ (key, m) :: after) :=
    (List.sublist_cons_self _ _).append_left before
  obtain ⟨⟨entries, hentries, htexts, hunique⟩, hparts⟩ := h
  cases hentries
  refine ⟨⟨_, rfl, fun e he => htexts e (hsub.subset he), fun k hk => ?_⟩, fun part m' hm' => ?_⟩
  · exact Nat.le_trans (hsub.filter _).length_le (hunique k hk)
  · refine hparts part m' ?_
    rw [Yaml.Node.holds_mapping] at hm' ⊢
    obtain ⟨e, he, hkey⟩ := hm'
    exact ⟨e, hsub.subset he, hkey⟩

/-- The part is the only one of its name, so that it is gone when it is taken out. -/
theorem IsDocument.not_holds_remove (h : IsDocument (.mapping (before ++ (key, m) :: after)))
    (hkey : key.text? = some part.key) (m' : Yaml.Node) :
    ¬ (Yaml.Node.mapping (before ++ after)).Holds part.key m' := by
  obtain ⟨⟨entries, hentries, -, hunique⟩, -⟩ := h
  cases hentries
  rw [Yaml.Node.holds_mapping]
  rintro ⟨e, he, htext, -⟩
  have honce := hunique part.key part.key_mem_keys
  have hmem : e ∈ (before ++ after).filter (·.1.text? = some part.key) := by
    rw [List.mem_filter]
    exact ⟨he, by simp [htext]⟩
  have hpos : 0 < ((before ++ after).filter (·.1.text? = some part.key)).length :=
    List.length_pos_of_mem hmem
  simp only [List.filter_append, List.filter_cons, hkey, List.length_append, List.length_cons,
    decide_true, if_true] at honce hpos
  omega

theorem holds_remove_iff {k : String} {v : Yaml.Node} (hkey : key.text? ≠ some k) :
    (Yaml.Node.mapping (before ++ (key, m) :: after)).Holds k v ↔
      (Yaml.Node.mapping (before ++ after)).Holds k v := by
  simp only [Yaml.Node.holds_mapping, List.mem_append, List.mem_cons]
  grind

/-- A part in which every value that is given is the default may be left out. -/
theorem ofNode?_remove (h : IsDocument (.mapping (before ++ (key, m) :: after)))
    (hkey : key.text? = some part.key)
    (hdefault : ∀ {α : Type} (f : Field α), f.part? = some part →
      ∀ v, m.Holds f.key v → f.read? v = some (f.get default)) :
    ofNode? (.mapping (before ++ (key, m) :: after)) = ofNode? (.mapping (before ++ after)) := by
  have hother {k : String} (hk : part.key ≠ k) (v : Yaml.Node) :
      (Yaml.Node.mapping (before ++ (key, m) :: after)).Holds k v ↔
        (Yaml.Node.mapping (before ++ after)).Holds k v :=
    holds_remove_iff (by simpa [hkey] using hk)
  refine Option.ext fun c => ?_
  rw [ofNode?_eq_some_iff_given h, ofNode?_eq_some_iff_given h.remove]
  refine forall_congr' fun α => forall_congr' fun f => ?_
  by_cases hpart : f.part? = some part
  · have hgiven (v : Yaml.Node) :
        f.Given (.mapping (before ++ (key, m) :: after)) v ↔ m.Holds f.key v := by
      have hm : (Yaml.Node.mapping (before ++ (key, m) :: after)).Holds part.key m :=
        Yaml.Node.holds_mapping.2 ⟨(key, m), by simp, hkey, rfl⟩
      rw [Field.given_of_part hpart]
      constructor
      · rintro ⟨m', hm', hv⟩
        rwa [Yaml.Node.IsRecord.holds_unique h.isRecord part.key_mem_keys hm hm']
      · exact fun hv => ⟨m, hm, hv⟩
    have hgone (v : Yaml.Node) : ¬ f.Given (.mapping (before ++ after)) v := by
      rw [Field.given_of_part hpart]
      rintro ⟨m', hm', -⟩
      exact h.not_holds_remove hkey m' hm'
    simp only [hgiven, hgone]
    constructor
    · rintro ⟨hread, hleft⟩
      refine ⟨by simp, fun _ => ?_⟩
      by_cases hany : ∃ v, m.Holds f.key v
      · obtain ⟨v, hv⟩ := hany
        exact (Option.some.inj ((hdefault f hpart v hv).symm.trans (hread v hv))).symm
      · exact hleft (not_exists.1 hany)
    · rintro ⟨-, hleft⟩
      have hget := hleft fun v => not_false
      exact ⟨fun v hv => (hdefault f hpart v hv).trans (by rw [hget]), fun _ => hget⟩
  · have hgiven (v : Yaml.Node) : f.Given (.mapping (before ++ (key, m) :: after)) v ↔
        f.Given (.mapping (before ++ after)) v := by
      cases hf : f.part? with
      | none =>
        rw [Field.given_of_no_part hf, Field.given_of_no_part hf]
        exact hother (Field.part_key_ne hf).symm v
      | some other =>
        rw [Field.given_of_part hf, Field.given_of_part hf]
        have hne : part.key ≠ other.key := fun he => hpart (by rw [hf, Part.key_injective he])
        exact exists_congr fun m' => and_congr_left' (hother hne m')
    simp only [hgiven]

end

/-! ## Decoding -/

theorem parse_of_read? {text : String} (h : Yaml.Node.read? text = some (some n)) :
    parse text = (ofNode? n).elim (.error .malformed) .ok := by
  simp only [parse, h]
  cases ofNode? n <;> rfl

/-- A document is laid over the defaults. Where every value that it gives is acceptable, it comes to
the default configuration with these values in place, whatever the order of its keys and whatever
unknown keys there are. A part may be left out, be empty or repeat its defaults; a setting has its
value whatever becomes of the others; and one value that is not acceptable spoils the document. -/
theorem document_overlays_defaults (h : IsDocument n) :
    ((∀ {α : Type} (f : Field α) (v : Yaml.Node), f.Given n v → (f.read? v).isSome = true) →
      ∃ c, ofNode? n = some c ∧
        (∀ text, Yaml.Node.read? text = some (some n) → parse text = .ok c) ∧
        ∀ {α : Type} (f : Field α), (∀ v, f.Given n v → f.read? v = some (f.get c)) ∧
          ((∀ v, ¬ f.Given n v) → f.get c = f.get default)) ∧
    (∀ n', IsDocument n' →
      (∀ {α : Type} (f : Field α) (v : Yaml.Node), f.Given n v ↔ f.Given n' v) →
      ofNode? n = ofNode? n') ∧
    (∀ (before after : List (Yaml.Node × Yaml.Node)) (key m : Yaml.Node) (part : Part),
      n = .mapping (before ++ (key, m) :: after) → key.text? = some part.key →
      (∀ {α : Type} (f : Field α), f.part? = some part →
        ∀ v, m.Holds f.key v → f.read? v = some (f.get default)) →
      ofNode? n = ofNode? (.mapping (before ++ after))) ∧
    (∀ (n' : Yaml.Node) (c c' : Config), IsDocument n' → ofNode? n = some c → ofNode? n' = some c' →
      ∀ {α : Type} (f : Field α), (∀ v, f.Given n v ↔ f.Given n' v) → f.get c = f.get c') ∧
    ∀ {α : Type} (f : Field α) (v : Yaml.Node), f.Given n v → f.read? v = none →
      ofNode? n = none ∧
        ∀ text, Yaml.Node.read? text = some (some n) → parse text = .error .malformed := by
  refine ⟨fun hread => ?_, fun n' h' hsame => ofNode?_congr h h' hsame, ?_, ?_, ?_⟩
  · obtain ⟨c, hc⟩ := exists_ofNode? h hread
    refine ⟨c, hc, fun text htext => ?_, (ofNode?_eq_some_iff_given h).1 hc⟩
    rw [parse_of_read? htext, hc]
    rfl
  · rintro before after key m part rfl hkey hdefault
    exact ofNode?_remove h hkey hdefault
  · intro n' c c' h' hc hc' α f hsame
    obtain ⟨hgiven, hleft⟩ := (ofNode?_eq_some_iff_given h).1 hc f
    obtain ⟨hgiven', hleft'⟩ := (ofNode?_eq_some_iff_given h').1 hc' f
    by_cases hany : ∃ v, f.Given n v
    · obtain ⟨v, hv⟩ := hany
      exact Option.some.inj ((hgiven v hv).symm.trans (hgiven' v ((hsame v).1 hv)))
    · have hnone := not_exists.1 hany
      rw [hleft hnone, hleft' fun v hv => hnone v ((hsame v).2 hv)]
  · intro α f v hgiven hread
    have hnone := ofNode?_eq_none h hgiven hread
    refine ⟨hnone, fun text htext => ?_⟩
    rw [parse_of_read? htext, hnone]
    rfl

/-- A scalar as it stands in a document without quotes. -/
def bareWord (s : String) : Yaml.Node := .scalar .plain none s

/-- Two settings in a part with a key that is not known, an empty part, and one setting outside. -/
def sparseDocument : Yaml.Node :=
  .mapping [(bareWord "later", .sequence [bareWord "1"]),
    (bareWord "metrics", .mapping [(bareWord "port", bareWord "0x50"),
      (bareWord "color", bareWord "red"), (bareWord "enabled", bareWord "FALSE")]),
    (bareWord "topology", .mapping []), (bareWord "dry_run", bareWord "true")]

theorem isDocument_sparseDocument : IsDocument sparseDocument := by
  refine ⟨⟨_, rfl, by decide, by decide +kernel⟩, fun part m hm => ?_⟩
  obtain ⟨e, he, htext, rfl⟩ := Yaml.Node.holds_mapping.1 hm
  simp only [List.mem_cons, List.not_mem_nil, or_false] at he
  rcases he with rfl | rfl | rfl | rfl
  · exact absurd htext (by cases part <;> decide)
  · obtain rfl : Part.metrics = part := Part.key_injective (Option.some.inj htext)
    exact ⟨_, rfl, by decide, by decide +kernel⟩
  · obtain rfl : Part.topology = part := Part.key_injective (Option.some.inj htext)
    exact ⟨_, rfl, by decide, by decide +kernel⟩
  · exact absurd htext (by cases part <;> decide)

theorem document_overlays_sparseDocument : IsDocument sparseDocument ∧
    ∃ c, ofNode? sparseDocument = some c ∧ c.metrics.port = 80 ∧ c.metrics.enabled = false ∧
      c.dryRun = true ∧ c.topology.interval = .seconds 600 := by
  have hvalue {α : Type} (f : Field α) (v : Yaml.Node) :
      f.value? sparseDocument = some v ↔ f.Given sparseDocument v :=
    Field.value?_eq_some_iff isDocument_sparseDocument
  have hread {α : Type} (f : Field α) (v : Yaml.Node) (h : f.Given sparseDocument v) :
      (f.read? v).isSome = true := by
    have hall : (f.value? sparseDocument).all (fun v => (f.read? v).isSome) = true := by
      cases f <;> decide +kernel
    rwa [(hvalue f v).2 h] at hall
  obtain ⟨c, hc, -, hover⟩ := (document_overlays_defaults isDocument_sparseDocument).1 hread
  have hget {α : Type} (f : Field α) (a : α)
      (h : (f.value? sparseDocument).bind f.read? = some a) : f.get c = a := by
    obtain ⟨v, hv, ha⟩ := Option.bind_eq_some_iff.1 h
    exact Option.some.inj (((hover f).1 v ((hvalue f v).1 hv)).symm.trans ha)
  have hport : Field.port.get c = ⟨80, by decide⟩ := hget .port _ (by decide +kernel)
  have hinterval : ∀ v, ¬ Field.interval.Given sparseDocument v := fun v hv => by
    have hnone : (Field.interval.value? sparseDocument).isNone = true := by decide +kernel
    rw [(hvalue _ v).2 hv] at hnone
    cases hnone
  exact ⟨isDocument_sparseDocument, c, hc, congrArg Subtype.val hport,
    hget .enabled false (by decide +kernel), hget .dryRun true (by decide +kernel),
    (hover .interval).2 hinterval⟩

end NodeLabels.Config
