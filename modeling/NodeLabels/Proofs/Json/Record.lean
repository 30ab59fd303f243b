import Mathlib.Data.List.Forall2
import NodeLabels.Json.Reader
/-!
# What documents tell of records

A document tells the fields of a record by their keys, in any order and among other members, or by
their places in a list. `Reads r Stands` says what a reader makes of documents by a relation: it
returns exactly what the document stands for. For the readers of texts, lists and labels the
relation says what the document looks like, and for a field that may be missing it is `Tells`.
-/

namespace NodeLabels.Json

variable {α β : Type} {known : List String} {key : String} {v w j : Json}

/-! ## Fields -/

/-- The document gives the field that value. -/
inductive HasField (known : List String) (key : String) (v : Json) : Json → Prop
  | member {members : List (String × Json)} (hmember : (key, v) ∈ members) :
      HasField known key v (.object members)
  | item {items : List Json} {i : Nat} (hkey : known[i]? = some key) (hitem : items[i]? = some v) :
      HasField known key v (.array items)

/-- The document gives no field twice, and nothing behind the last field. -/
inductive IsRecord (known : List String) : Json → Prop
  | object {members : List (String × Json)}
      (honce : ∀ key ∈ known, (members.filter (·.1 = key)).length ≤ 1) :
      IsRecord known (.object members)
  | array {items : List Json} (hfits : items.length ≤ known.length) : IsRecord known (.array items)

theorem hasField_object_iff {members : List (String × Json)} :
    HasField known key v (.object members) ↔ (key, v) ∈ members :=
  ⟨fun h => by cases h; assumption, .member⟩

theorem hasField_array_iff {items : List Json} {i : Nat} (hknown : known.Nodup)
    (hkey : known[i]? = some key) : HasField known key v (.array items) ↔ items[i]? = some v := by
  refine ⟨fun h => ?_, .item hkey⟩
  cases h with
  | @item _ k hkey' hitem =>
    obtain ⟨hi, -⟩ := List.getElem?_eq_some_iff.1 hkey
    obtain rfl : i = k := (List.getElem?_inj hi hknown).1 (hkey.trans hkey'.symm)
    exact hitem

theorem fields_eq_none (h : ¬ IsRecord known j) : Reader.fields known j = none := by
  cases j with
  | object members =>
    refine if_neg fun hall => h (.object fun key hkey => ?_)
    exact of_decide_eq_true (List.all_eq_true.1 hall key hkey)
  | array items => exact if_neg fun hle => h (.array hle)
  | _ => rfl

/-- Each field of a record is read as the value that the document gives it. -/
theorem exists_fields (hj : IsRecord known j) (hknown : known.Nodup) :
    ∃ values, Reader.fields known j = some values ∧ List.Forall₂
      (fun key value? => ∀ v, value? = some v ↔ HasField known key v j) known values := by
  cases hj with
  | @object members honce =>
    refine ⟨_, if_pos (List.all_eq_true.2 fun key hkey => decide_eq_true (honce key hkey)), ?_⟩
    refine List.forall₂_map_right_iff.2 (List.forall₂_same.2 fun key hkey v => ?_)
    rw [hasField_object_iff]
    exact lookup_eq_some_iff_mem (honce key hkey)
  | @array items hfits =>
    refine ⟨_, if_pos hfits, List.forall₂_iff_get.2 ⟨by simp, fun i hi hi' v => ?_⟩⟩
    have hkey : known[i]? = some (known.get ⟨i, hi⟩) := List.getElem?_eq_getElem hi
    rw [hasField_array_iff hknown hkey]
    simp

theorem exists_field {k : String} (hj : IsRecord [k] j) :
    ∃ a, Reader.fields [k] j = some [a] ∧ ∀ v, a = some v ↔ HasField [k] k v j := by
  obtain ⟨values, hvalues, hfields⟩ := exists_fields hj (by simp)
  cases hfields with | cons ha hfields =>
  cases hfields
  exact ⟨_, hvalues, ha⟩

theorem exists_two_fields {k l : String} (hj : IsRecord [k, l] j) (hne : k ≠ l) :
    ∃ a b, Reader.fields [k, l] j = some [a, b] ∧ (∀ v, a = some v ↔ HasField [k, l] k v j) ∧
      ∀ v, b = some v ↔ HasField [k, l] l v j := by
  obtain ⟨values, hvalues, hfields⟩ := exists_fields hj (by simp [hne])
  cases hfields with | cons ha hfields =>
  cases hfields with | cons hb hfields =>
  cases hfields
  exact ⟨_, _, hvalues, ha, hb⟩

theorem HasField.unique (hj : IsRecord known j) (hknown : known.Nodup) (hkey : key ∈ known)
    (hv : HasField known key v j) (hw : HasField known key w j) : v = w := by
  cases hj with
  | object honce =>
    have hv := (lookup_eq_some_iff_mem (honce key hkey)).2 (hasField_object_iff.1 hv)
    have hw := (lookup_eq_some_iff_mem (honce key hkey)).2 (hasField_object_iff.1 hw)
    exact Option.some.inj (hv.symm.trans hw)
  | array hfits =>
    obtain ⟨i, hi⟩ := List.mem_iff_getElem?.1 hkey
    have hv := (hasField_array_iff hknown hi).1 hv
    have hw := (hasField_array_iff hknown hi).1 hw
    exact Option.some.inj (hv.symm.trans hw)

/-- What the document tells of a field: what its value stands for, or the default if the field is
missing. -/
def Tells (known : List String) (key : String) (Stands : Json → α → Prop) (default : α) (j : Json)
    (a : α) : Prop :=
  (∃ v, HasField known key v j ∧ Stands v a) ∨ (∀ v, ¬ HasField known key v j) ∧ a = default

theorem Tells.stands {Stands : Json → α → Prop} {default a : α}
    (h : Tells known key Stands default j a) (hj : IsRecord known j) (hknown : known.Nodup)
    (hkey : key ∈ known) (hv : HasField known key v j) : Stands v a := by
  rcases h with ⟨w, hw, ha⟩ | ⟨hmissing, -⟩
  · exact HasField.unique hj hknown hkey hv hw ▸ ha
  · exact absurd hv (hmissing v)

/-! ## Readers -/

/-- The reader returns what the document stands for, and nothing if it stands for nothing. -/
def Reads (r : Reader α) (Stands : Json → α → Prop) : Prop := ∀ j a, r j = some a ↔ Stands j a

theorem Reads.orElse {r : Reader α} {Stands : Json → α → Prop} (hr : Reads r Stands)
    {value? : Option Json} (hvalue : ∀ v, value? = some v ↔ HasField known key v j)
    (default a : α) :
    Reader.orElse r default value? = some a ↔ Tells known key Stands default j a := by
  cases value? with
  | some v =>
    have hv : HasField known key v j := (hvalue v).1 rfl
    refine (hr v a).trans ⟨fun ha => .inl ⟨v, hv, ha⟩, ?_⟩
    rintro (⟨w, hw, ha⟩ | ⟨hmissing, -⟩)
    · exact Option.some.inj ((hvalue w).2 hw) ▸ ha
    · exact absurd hv (hmissing v)
  | none =>
    have hmissing : ∀ v, ¬ HasField known key v j := fun v hv => nomatch (hvalue v).2 hv
    refine ⟨fun ha => .inr ⟨hmissing, (Option.some.inj ha).symm⟩, ?_⟩
    rintro (⟨w, hw, -⟩ | ⟨-, ha⟩)
    · exact absurd hw (hmissing w)
    · exact congrArg some ha.symm

def IsString (j : Json) (s : String) : Prop := j = .string s

theorem reads_string : Reads Reader.string IsString := by
  intro j s
  cases j <;> simp [Reader.string, IsString]

/-- The document is null and the value is missing, or it stands for the value. -/
def IsOptional (Stands : Json → α → Prop) (j : Json) : Option α → Prop
  | some a => j ≠ .null ∧ Stands j a
  | none => j = .null

theorem Reads.optional {r : Reader α} {Stands : Json → α → Prop} (hr : Reads r Stands) :
    Reads (Reader.optional r) (IsOptional Stands) := by
  intro j a
  cases j <;> cases a <;> simp [Reader.optional, IsOptional, hr _ _]

theorem mapM_eq_some_iff {f : α → Option β} {R : α → β → Prop} (hf : ∀ a b, f a = some b ↔ R a b)
    {as : List α} {bs : List β} : as.mapM f = some bs ↔ List.Forall₂ R as bs := by
  induction as generalizing bs with
  | nil => simp [eq_comm]
  | cons a as ih =>
    cases bs with
    | nil => simp [List.mapM_cons, Option.bind_eq_some_iff]
    | cons b bs => simp [List.mapM_cons, Option.bind_eq_some_iff, hf, ih]

/-- The document is an array, and its items stand for the values one by one. -/
def IsList (Stands : Json → α → Prop) (j : Json) (as : List α) : Prop :=
  ∃ items, j = .array items ∧ List.Forall₂ Stands items as

theorem Reads.list {r : Reader α} {Stands : Json → α → Prop} (hr : Reads r Stands) :
    Reads (Reader.list r) (IsList Stands) := by
  intro j as
  cases j <;> simp [Reader.list, IsList, mapM_eq_some_iff hr]

theorem IsList.exists_stands {Stands : Json → α → Prop} {items : List Json} {as : List α}
    (h : IsList Stands (.array items) as) {item : Json} (hitem : item ∈ items) :
    ∃ a, Stands item a := by
  obtain ⟨_, heq, hall⟩ := h
  cases heq
  induction hall with
  | nil => cases hitem
  | cons ha _ ih =>
    rcases List.mem_cons.1 hitem with rfl | hitem
    · exact ⟨_, ha⟩
    · exact ih hitem

/-! ## Labels -/

/-- The document is an object of texts, and the map has the last one that it gives a key. -/
def IsLabels (j : Json) (m : LabelMap) : Prop :=
  ∃ pairs : List (String × String), j = .object (pairs.map fun p => (p.1, .string p.2)) ∧
    ∀ key, m.find? key = pairs.reverse.lookup key

theorem mapM_texts_eq_some_iff {members : List (String × Json)} {pairs : List (String × String)} :
    (members.mapM fun m => (Reader.string m.2).map (m.1, ·)) = some pairs ↔
      members = pairs.map fun p => (p.1, .string p.2) := by
  have hmember : ∀ (m : String × Json) (p : String × String),
      (Reader.string m.2).map (m.1, ·) = some p ↔ m = (p.1, .string p.2) := by
    rintro ⟨key, v⟩ ⟨key', s⟩
    cases v <;> simp [Reader.string]
  rw [mapM_eq_some_iff hmember, ← List.forall₂_map_right_iff, List.forall₂_eq_eq_eq]

theorem find?_foldl_insert (pairs : List (String × String)) (m : LabelMap) (key : String) :
    (pairs.foldl (fun m p => m.insert p.1 p.2) m).find? key =
      (pairs.reverse.lookup key).or (m.find? key) := by
  induction pairs generalizing m with
  | nil => rfl
  | cons p ps ih =>
    rw [List.foldl_cons, ih, LabelMap.find?_insert, List.reverse_cons, List.lookup_append,
      Option.or_assoc, lookup_entry_cons]
    split <;> rfl

theorem find?_ofList (pairs : List (String × String)) (key : String) :
    (LabelMap.ofList pairs).find? key = pairs.reverse.lookup key := by
  rw [LabelMap.ofList, find?_foldl_insert, LabelMap.find?_empty, Option.or_none]

theorem reads_labels : Reads Reader.labels IsLabels := by
  intro j m
  cases j with
  | object members =>
    constructor
    · intro h
      obtain ⟨pairs, hpairs, rfl⟩ := Option.map_eq_some_iff.1 h
      exact ⟨pairs, congrArg Json.object (mapM_texts_eq_some_iff.1 hpairs), find?_ofList pairs⟩
    · rintro ⟨pairs, hmembers, hm⟩
      obtain rfl : LabelMap.ofList pairs = m := LabelMap.ext_find? fun key =>
        (find?_ofList pairs key).trans (hm key).symm
      exact Option.map_eq_some_iff.2
        ⟨pairs, mapM_texts_eq_some_iff.2 (Json.object.inj hmembers), rfl⟩
  | _ => simp [Reader.labels, IsLabels]

end NodeLabels.Json
