import NodeLabels.Node
import NodeLabels.Proofs.Text.Split
/-!
# Provider IDs

Which provider IDs name an instance, and which instance that is. An ID falls under exactly one of
four headings: it is not there, it is of another provider, nothing follows its last slash, or it
names what follows its last slash (`instanceName_divides`).
-/

namespace NodeLabels

/-- The ID is one of Compute Engine. -/
def IsGce (id : String) : Prop := ∃ path, id = "gce://" ++ path

def EndsInSlash (id : String) : Prop := ∃ start, id = start ++ "/"

/-- The ID of the instance `name`, with `front` between the provider and the name. -/
structure NamesInstance (id front name : String) : Prop where
  whole : id = "gce://" ++ front ++ name
  front : front = "" ∨ EndsInSlash front
  name_ne : name ≠ ""
  slashless : '/' ∉ name.toList

variable {id id' front front' name name' path : String}

theorem dropStart?_eq_some_iff {start cs rest : List Char} :
    dropStart? start cs = some rest ↔ cs = start ++ rest := by
  induction start generalizing cs with
  | nil => simp [dropStart?]
  | cons s start ih =>
    cases cs with
    | nil => simp [dropStart?]
    | cons c cs =>
      by_cases h : s = c
      · simp [dropStart?, h, ih]
      · simp [dropStart?, h, Ne.symm h]

/-! ## The headings -/

theorem instanceName_empty : instanceName (some "") = .error .missing := by
  rw [instanceName, if_pos rfl]

theorem instanceName_notGce (hne : id ≠ "") (h : ¬ IsGce id) :
    instanceName (some id) = .error (.notGce id) := by
  have hdrop : dropStart? Label.gceProvider.toList id.toList = none := by
    refine Option.eq_none_iff_forall_ne_some.2 fun rest hrest => h ⟨String.ofList rest, ?_⟩
    have htext : id.toList = "gce://".toList ++ rest := dropStart?_eq_some_iff.1 hrest
    rw [← String.toList_inj, htext]
    simp
  rw [instanceName, if_neg hne, hdrop]

/-- Behind the provider, the last slash decides. -/
theorem instanceName_gce {before last : List Char}
    (h : Text.CutAtLast '/' path.toList before last) :
    instanceName (some ("gce://" ++ path)) =
      if last = [] then .error (.malformed ("gce://" ++ path)) else .ok (String.ofList last) := by
  have hne : "gce://" ++ path ≠ "" := by simp [String.ext_iff]
  have hdrop : dropStart? Label.gceProvider.toList ("gce://" ++ path).toList = some path.toList :=
    dropStart?_eq_some_iff.2 (String.toList_append ..)
  rw [instanceName, if_neg hne, hdrop]
  simp only [h.getLast?_splitAt]
  cases last with
  | nil => rfl
  | cons c cs => rfl

theorem NamesInstance.cut (h : NamesInstance id front name) :
    Text.CutAtLast '/' (front ++ name).toList front.toList name.toList where
  whole := String.toList_append
  front := by
    rcases h.front with rfl | ⟨start, rfl⟩
    · exact .inl rfl
    · exact .inr ⟨start.toList, String.toList_append⟩
  last := h.slashless

theorem instanceName_names (h : NamesInstance id front name) :
    instanceName (some id) = .ok name := by
  have hname : name.toList ≠ [] := by simpa using h.name_ne
  rw [h.whole, String.append_assoc, instanceName_gce h.cut, if_neg hname, String.ofList_toList]

/-- Nothing follows the last slash. -/
theorem cutAtLast_of_endsInSlash (h : EndsInSlash ("gce://" ++ path)) :
    Text.CutAtLast '/' path.toList path.toList [] where
  whole := (List.append_nil _).symm
  front := by
    obtain ⟨start, hstart⟩ := h
    rcases List.eq_nil_or_concat path.toList with hnil | ⟨before, c, hpath⟩
    · exact .inl hnil
    · have hends : "gce://".toList ++ before ++ [c] = start.toList ++ ['/'] := by
        have htext := congrArg String.toList hstart
        rwa [String.toList_append, String.toList_append, hpath, List.concat_eq_append,
          ← List.append_assoc] at htext
      obtain ⟨-, hc⟩ := List.append_inj' hends rfl
      exact .inr ⟨before, by rw [hpath, List.concat_eq_append, hc]⟩
  last := List.not_mem_nil

theorem instanceName_malformed (hgce : IsGce id) (hslash : EndsInSlash id) :
    instanceName (some id) = .error (.malformed id) := by
  obtain ⟨path, rfl⟩ := hgce
  rw [instanceName_gce (cutAtLast_of_endsInSlash hslash), if_pos rfl]

theorem names_or_endsInSlash (h : IsGce id) :
    (∃ front name, NamesInstance id front name) ∨ EndsInSlash id := by
  obtain ⟨path, rfl⟩ := h
  obtain ⟨front, last, hwhole, hfront, hlast⟩ := Text.exists_cutAtLast '/' path.toList
  have hpath : path = String.ofList front ++ String.ofList last := by
    rw [← String.ofList_append, ← hwhole, String.ofList_toList]
  have hfront' : String.ofList front = "" ∨ EndsInSlash (String.ofList front) := by
    rcases hfront with rfl | ⟨start, rfl⟩
    · exact .inl rfl
    · exact .inr ⟨String.ofList start, String.ofList_append⟩
  by_cases hempty : last = []
  · subst hempty
    right
    rcases hfront' with hnil | ⟨start, hstart⟩
    · exact ⟨"gce:/", by rw [hpath, hnil]; rfl⟩
    · exact ⟨"gce://" ++ start, by rw [hpath, hstart, String.ofList_nil, String.append_empty,
        String.append_assoc]⟩
  · left
    refine ⟨String.ofList front, String.ofList last, ?_, hfront', ?_, by simpa using hlast⟩
    · rw [hpath, String.append_assoc]
    · simpa [String.ext_iff] using hempty

theorem isGce_of_names (h : NamesInstance id front name) : IsGce id :=
  ⟨front ++ name, by rw [h.whole, String.append_assoc]⟩

/-- What a provider ID comes to, by its heading. -/
inductive Headed : Option String → Except ProviderFault String → Prop
  | absent : Headed none (.error .missing)
  | empty : Headed (some "") (.error .missing)
  | names {id front name : String} (h : NamesInstance id front name) : Headed (some id) (.ok name)
  | malformed {id : String} (hgce : IsGce id) (hslash : EndsInSlash id) :
      Headed (some id) (.error (.malformed id))
  | notGce {id : String} (hne : id ≠ "") (h : ¬ IsGce id) : Headed (some id) (.error (.notGce id))

theorem exists_headed (providerId : Option String) : ∃ result, Headed providerId result := by
  rcases providerId with - | id
  · exact ⟨_, .absent⟩
  by_cases hempty : id = ""
  · subst hempty
    exact ⟨_, .empty⟩
  by_cases hgce : IsGce id
  · rcases names_or_endsInSlash hgce with ⟨front, name, h⟩ | hslash
    · exact ⟨_, .names h⟩
    · exact ⟨_, .malformed hgce hslash⟩
  · exact ⟨_, .notGce hempty hgce⟩

theorem Headed.instanceName_eq {providerId : Option String} {result : Except ProviderFault String}
    (h : Headed providerId result) : instanceName providerId = result := by
  cases h with
  | absent => rfl
  | empty => exact instanceName_empty
  | names h => exact instanceName_names h
  | malformed hgce hslash => exact instanceName_malformed hgce hslash
  | notGce hne h => exact instanceName_notGce hne h

theorem instanceName_eq_iff_headed {providerId : Option String}
    {result : Except ProviderFault String} :
    instanceName providerId = result ↔ Headed providerId result := by
  refine ⟨?_, Headed.instanceName_eq⟩
  rintro rfl
  obtain ⟨result, h⟩ := exists_headed providerId
  rwa [h.instanceName_eq]

theorem instanceName_eq_missing_iff {providerId : Option String} :
    instanceName providerId = .error .missing ↔ providerId = none ∨ providerId = some "" := by
  rw [instanceName_eq_iff_headed]
  constructor
  · intro h
    cases h with
    | absent => exact .inl rfl
    | empty => exact .inr rfl
  · rintro (rfl | rfl)
    · exact .absent
    · exact .empty

theorem instanceName_eq_ok_iff :
    instanceName (some id) = .ok name ↔ ∃ front, NamesInstance id front name := by
  rw [instanceName_eq_iff_headed]
  constructor
  · intro h
    cases h with
    | names h => exact ⟨_, h⟩
  · rintro ⟨front, h⟩
    exact .names h

theorem instanceName_eq_malformed_iff :
    instanceName (some id) = .error (.malformed id') ↔ id' = id ∧ IsGce id ∧ EndsInSlash id := by
  rw [instanceName_eq_iff_headed]
  constructor
  · intro h
    cases h with
    | malformed hgce hslash => exact ⟨rfl, hgce, hslash⟩
  · rintro ⟨rfl, hgce, hslash⟩
    exact .malformed hgce hslash

theorem instanceName_eq_notGce_iff :
    instanceName (some id) = .error (.notGce id') ↔ id' = id ∧ id ≠ "" ∧ ¬ IsGce id := by
  rw [instanceName_eq_iff_headed]
  constructor
  · intro h
    cases h with
    | notGce hne h => exact ⟨rfl, hne, h⟩
  · rintro ⟨rfl, hne, h⟩
    exact .notGce hne h

theorem NamesInstance.unique (h : NamesInstance id front name)
    (h' : NamesInstance id front' name') : front = front' ∧ name = name' := by
  have hpath : front' ++ name' = front ++ name := by
    have hwhole := h'.whole.symm.trans h.whole
    rw [String.append_assoc, String.append_assoc] at hwhole
    exact (String.append_right_inj _).1 hwhole
  obtain ⟨hfront, hname⟩ := h.cut.unique (hpath ▸ h'.cut)
  exact ⟨String.toList_inj.1 hfront, String.toList_inj.1 hname⟩

/-- An ID is missing exactly if there is none or it is empty. Any other ID names an instance exactly
if it is made of `gce://`, a part that is empty or ends in a slash, and the name, which is not empty
and has no slash; this can be so in one way only. It is malformed exactly if it begins with `gce://`
and ends in a slash, and of another provider exactly if it does not begin with `gce://`; both are
reported with the ID as it is. One of the three holds of each ID that is not empty, and no two of
them. In particular an instance is named by the ID that is made of its project, its zone and its
name. -/
theorem instanceName_divides :
    (∀ providerId, instanceName providerId = .error .missing ↔
      providerId = none ∨ providerId = some "") ∧
    (∀ id name, instanceName (some id) = .ok name ↔ ∃ front, NamesInstance id front name) ∧
    (∀ id front front' name name', NamesInstance id front name → NamesInstance id front' name' →
      front = front' ∧ name = name') ∧
    (∀ id id', instanceName (some id) = .error (.malformed id') ↔
      id' = id ∧ IsGce id ∧ EndsInSlash id) ∧
    (∀ id id', instanceName (some id) = .error (.notGce id') ↔
      id' = id ∧ id ≠ "" ∧ ¬ IsGce id) ∧
    (∀ id, (∃ front name, NamesInstance id front name) ∨ (IsGce id ∧ EndsInSlash id) ∨
      ¬ IsGce id) ∧
    (∀ id front name, NamesInstance id front name → IsGce id ∧ ¬ EndsInSlash id) ∧
    (∀ project zone name, name ≠ "" → '/' ∉ name.toList →
      instanceName (some ("gce://" ++ project ++ "/" ++ zone ++ "/" ++ name)) = .ok name) := by
  refine ⟨fun _ => instanceName_eq_missing_iff, fun _ _ => instanceName_eq_ok_iff,
    fun _ _ _ _ _ h h' => h.unique h', fun _ _ => instanceName_eq_malformed_iff,
    fun _ _ => instanceName_eq_notGce_iff, ?_, ?_, ?_⟩
  · intro id
    by_cases hgce : IsGce id
    · rcases names_or_endsInSlash hgce with hnames | hslash
      · exact .inl hnames
      · exact .inr (.inl ⟨hgce, hslash⟩)
    · exact .inr (.inr hgce)
  · intro id front name h
    refine ⟨isGce_of_names h, fun hslash => ?_⟩
    cases (instanceName_names h).symm.trans (instanceName_malformed (isGce_of_names h) hslash)
  · intro project zone name hne hslashless
    have hwhole : "gce://" ++ project ++ "/" ++ zone ++ "/" ++ name =
        "gce://" ++ (project ++ "/" ++ zone ++ "/") ++ name := by simp only [String.append_assoc]
    exact instanceName_names ⟨hwhole, .inr ⟨_, rfl⟩, hne, hslashless⟩

/-- Slashes in a row before the name, and none at all. -/
theorem instanceName_divides_slashes :
    NamesInstance "gce:////n" "//" "n" ∧ instanceName (some "gce:////n") = .ok "n" ∧
    (∀ front name, NamesInstance "gce:////n" front name → front = "//" ∧ name = "n") ∧
    IsGce "gce:////n" ∧ ¬ EndsInSlash "gce:////n" ∧
    instanceName (some ("gce://" ++ "p" ++ "/" ++ "z" ++ "/" ++ "n")) = .ok "n" ∧
    instanceName (some "gce://") = .error (.malformed "gce://") ∧
    instanceName (some "") = .error .missing := by
  obtain ⟨hmissing, hnames, hunique, hmalformed, -, -, hgce, hplain⟩ := instanceName_divides
  have hslashes : NamesInstance "gce:////n" "//" "n" :=
    ⟨by decide +kernel, .inr ⟨"/", by decide +kernel⟩, by decide, by decide +kernel⟩
  obtain ⟨hfour, hend⟩ := hgce _ _ _ hslashes
  refine ⟨hslashes, (hnames _ _).2 ⟨_, hslashes⟩, fun front name h => hunique _ _ _ _ _ h hslashes,
    hfour, hend, hplain "p" "z" "n" (by decide) (by decide +kernel), ?_, (hmissing _).2 (.inr rfl)⟩
  exact (hmalformed _ _).2 ⟨rfl, ⟨"", by decide +kernel⟩, "gce:/", by decide +kernel⟩

end NodeLabels
