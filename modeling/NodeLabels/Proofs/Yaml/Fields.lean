import NodeLabels.Entries
import NodeLabels.Yaml.Value
/-!
# Fields of a mapping

A mapping with texts for keys holds a value under a key, and where the known keys come at most once
each, that value is the one that is read (`fields?_of_isRecord`, `value?_eq_some_iff`). The order of
the entries and those under other keys play no part in it.
-/

namespace NodeLabels.Yaml.Node

/-- The mapping has an entry with this key and this value. -/
def Holds (n : Node) (key : String) (value : Node) : Prop :=
  ∃ entries, n = .mapping entries ∧ ∃ e ∈ entries, e.1.text? = some key ∧ e.2 = value

/-- A mapping with texts for keys, in which none of the known keys comes twice. -/
def IsRecord (known : List String) (n : Node) : Prop :=
  ∃ entries, n = .mapping entries ∧ (∀ e ∈ entries, e.1.text?.isSome = true) ∧
    ∀ key ∈ known, (entries.filter (·.1.text? = some key)).length ≤ 1

/-- The value that is read under a key. -/
def value? (key : String) (n : Node) : Option Node :=
  n.entries? >>= fun entries => entries.lookup key

variable {n value : Node} {key : String} {known : List String} {entries : List (Node × Node)}

@[simp] theorem holds_mapping : Holds (.mapping entries) key value ↔
    ∃ e ∈ entries, e.1.text? = some key ∧ e.2 = value := by
  simp [Holds]

/-! ## Entries -/

/-- The entries with their keys as texts. -/
def keyed (entries : List (Node × Node)) : List (String × Node) :=
  entries.map fun e => (e.1.text?.getD "", e.2)

theorem entries?_mapping (h : ∀ e ∈ entries, e.1.text?.isSome = true) :
    entries? (.mapping entries) = some (keyed entries) := by
  have hmapM : entries.mapM (fun e => e.1.text?.map (·, e.2)) = some (keyed entries) := by
    induction entries with
    | nil => rfl
    | cons e es ih =>
      obtain ⟨he, hes⟩ := List.forall_mem_cons.1 h
      obtain ⟨k, hk⟩ := Option.isSome_iff_exists.1 he
      simp [List.mapM_cons, ih hes, keyed, hk]
  exact hmapM

theorem length_filter_keyed (h : ∀ e ∈ entries, e.1.text?.isSome = true) :
    ((keyed entries).filter (·.1 = key)).length =
      (entries.filter (·.1.text? = some key)).length := by
  rw [keyed, List.filter_map, List.length_map]
  congr 1
  refine List.filter_congr fun e he => ?_
  obtain ⟨k, hk⟩ := Option.isSome_iff_exists.1 (h e he)
  simp [hk]

/-! ## Records -/

theorem fields?_of_isRecord (h : IsRecord known n) :
    n.fields? known = some (known.map fun key => n.value? key) := by
  obtain ⟨entries, rfl, htexts, hunique⟩ := h
  have hall : known.all (fun key => ((keyed entries).filter (·.1 = key)).length ≤ 1) = true := by
    simp only [length_filter_keyed htexts, List.all_eq_true, decide_eq_true_eq]
    exact hunique
  simp only [fields?, value?, entries?_mapping htexts, Option.bind_eq_bind, Option.bind_some]
  rw [if_pos hall]
  rfl

theorem value?_eq_some_iff (h : IsRecord known n) (hkey : key ∈ known) :
    n.value? key = some value ↔ n.Holds key value := by
  obtain ⟨entries, rfl, htexts, hunique⟩ := h
  have honce : ((keyed entries).filter (·.1 = key)).length ≤ 1 := by
    rw [length_filter_keyed htexts]
    exact hunique key hkey
  have hlookup : (keyed entries).lookup key = some value ↔ (key, value) ∈ keyed entries :=
    lookup_eq_some_iff_mem honce
  rw [value?, entries?_mapping htexts, Option.bind_eq_bind, Option.bind_some, hlookup,
    holds_mapping]
  simp only [keyed, List.mem_map, Prod.mk.injEq]
  refine exists_congr fun e => and_congr_right fun he => and_congr_left' ?_
  obtain ⟨k, hk⟩ := Option.isSome_iff_exists.1 (htexts e he)
  simp [hk]

theorem IsRecord.holds_unique {value' : Node} (h : IsRecord known n) (hkey : key ∈ known)
    (hvalue : n.Holds key value) (hvalue' : n.Holds key value') : value = value' :=
  Option.some.inj (((value?_eq_some_iff h hkey).2 hvalue).symm.trans
    ((value?_eq_some_iff h hkey).2 hvalue'))

end NodeLabels.Yaml.Node
