import Mathlib.Data.List.Nodup
import NodeLabels.Proofs.Text.Digits
import NodeLabels.Proofs.Yaml.Fields
/-!
# Values are read as they were written

Texts, flags and numbers are read back from the scalars that they are written as. A text may stand
in any style, quoted, plain or as a block, as long as a plain one is not taken for nothing;
`restyle` writes the texts of a document in styles of one's own choice.
-/

namespace NodeLabels.Yaml.Node

mutual

/-- The same document with its quoted texts in other styles. -/
def restyle (style : String → Style) : Node → Node
  | .scalar .doubleQuoted none s => .scalar (style s) none s
  | .sequence items => .sequence (restyleItems style items)
  | .mapping entries => .mapping (restyleEntries style entries)
  | n => n

def restyleItems (style : String → Style) : List Node → List Node
  | [] => []
  | item :: items => item.restyle style :: restyleItems style items

def restyleEntries (style : String → Style) : List (Node × Node) → List (Node × Node)
  | [] => []
  | (key, value) :: entries =>
    (key.restyle style, value.restyle style) :: restyleEntries style entries

end

mutual

theorem restyle_doubleQuoted : (n : Node) → n.restyle (fun _ => .doubleQuoted) = n
  | .scalar style tag s => by
    unfold restyle
    split <;> simp_all
  | .sequence items => by
    rw [restyle, restyleItems_doubleQuoted items]
  | .mapping entries => by
    rw [restyle, restyleEntries_doubleQuoted entries]
  | .enclosing => by simp [restyle]

theorem restyleItems_doubleQuoted :
    (items : List Node) → restyleItems (fun _ => .doubleQuoted) items = items
  | [] => by simp [restyleItems]
  | item :: items => by
    rw [restyleItems, restyle_doubleQuoted item, restyleItems_doubleQuoted items]

theorem restyleEntries_doubleQuoted :
    (entries : List (Node × Node)) → restyleEntries (fun _ => .doubleQuoted) entries = entries
  | [] => by simp [restyleEntries]
  | (key, value) :: entries => by
    rw [restyleEntries, restyle_doubleQuoted key, restyle_doubleQuoted value,
      restyleEntries_doubleQuoted entries]

end

/-- A text that could be taken for nothing does not stand plain. -/
def Distinguishes (style : String → Style) : Prop :=
  ∀ s, style s = .plain → s ≠ "" ∧ isNullWord s = false

variable {style : String → Style}

@[simp] theorem restyle_ofText (s : String) :
    (ofText s).restyle style = .scalar (style s) none s := by
  simp [ofText, restyle]

@[simp] theorem restyle_plain (tag : Option String) (s : String) :
    (scalar .plain tag s).restyle style = .scalar .plain tag s := by
  simp [restyle]

theorem text?_restyle_ofText (style : String → Style) (s : String) :
    ((ofText s).restyle style).text? = some s := by
  rw [restyle_ofText]
  rfl

theorem restyle_ofFields (fields : List (String × Node)) : (ofFields fields).restyle style =
    .mapping (fields.map fun f => ((ofText f.1).restyle style, f.2.restyle style)) := by
  have hentries : restyleEntries style (fields.map fun f => (ofText f.1, f.2)) =
      fields.map fun f => ((ofText f.1).restyle style, f.2.restyle style) := by
    induction fields with
    | nil => simp [restyleEntries]
    | cons f fields ih => simp only [List.map_cons, restyleEntries, ih]
  rw [ofFields, restyle, hentries]

theorem holds_restyle_ofFields {fields : List (String × Node)} {key : String} {value : Node} :
    ((ofFields fields).restyle style).Holds key value ↔
      ∃ f ∈ fields, f.1 = key ∧ f.2.restyle style = value := by
  rw [restyle_ofFields, holds_mapping]
  constructor
  · rintro ⟨e, he, hkey, hvalue⟩
    obtain ⟨f, hf, rfl⟩ := List.mem_map.1 he
    rw [text?_restyle_ofText] at hkey
    exact ⟨f, hf, Option.some.inj hkey, hvalue⟩
  · rintro ⟨f, hf, hkey, hvalue⟩
    exact ⟨_, List.mem_map_of_mem hf, by rw [text?_restyle_ofText, hkey], hvalue⟩

theorem isRecord_restyle_ofFields {known : List String} {fields : List (String × Node)}
    (h : (fields.map Prod.fst).Nodup) : IsRecord known ((ofFields fields).restyle style) := by
  refine ⟨_, restyle_ofFields fields, List.forall_mem_map.2 fun f _ => ?_, fun key _ => ?_⟩
  · rw [text?_restyle_ofText, Option.isSome_some]
  · have hcount := List.nodup_iff_count_le_one.1 h key
    rw [List.count, List.countP_map] at hcount
    rw [List.filter_map, List.length_map, ← List.countP_eq_length_filter]
    refine Nat.le_trans (Nat.le_of_eq (List.countP_congr fun f _ => ?_)) hcount
    simp only [Function.comp_apply, text?_restyle_ofText, Option.some.injEq, decide_eq_true_eq,
      beq_iff_eq]

theorem optionalText?_ofOptionalText (h : Distinguishes style) (s : Option String) :
    ((ofOptionalText s).restyle style).optionalText? = some s := by
  cases s with
  | none =>
    have hnull : isNullWord "null" = true := by decide
    simp [ofOptionalText, optionalText?, hnull]
  | some s =>
    rw [ofOptionalText, restyle_ofText]
    cases hstyle : style s with
    | plain =>
      obtain ⟨hne, hword⟩ := h s hstyle
      simp [optionalText?, hne, hword]
    | _ => rfl

theorem flag?_ofFlag (style : String → Style) (b : Bool) :
    ((ofFlag b).restyle style).flag? = some b := by
  rw [ofFlag, restyle_plain]
  cases b <;> decide

theorem natOf?_cons {c : Char} {cs : List Char} (hplus : c ≠ '+') (hzero : c ≠ '0') :
    natOf? (c :: cs) = digits? 10 (c :: cs) := by
  simp [natOf?, hplus, hzero]

theorem natOf?_toDigits (n : Nat) : natOf? (Nat.toDigits 10 n) = some n := by
  rcases Nat.eq_zero_or_pos n with rfl | hpos
  · decide
  · obtain ⟨d, ds, hds⟩ := List.exists_cons_of_ne_nil (Nat.toDigits_ne_nil (n := n) (b := 10))
    have hzero := Text.head?_toDigits hpos
    have hdigit := Text.isDigit_of_mem_toDigits n
    have hread := Text.number?_toDigits n
    rw [hds] at hzero hdigit hread ⊢
    have hplus : d ≠ '+' := by
      rintro rfl
      exact absurd (hdigit '+' (by simp)) (by decide)
    rw [natOf?_cons hplus (by simpa using hzero), digits?, if_neg (List.cons_ne_nil _ _), hread]

theorem natBelow?_ofNat (style : String → Style) {bound n : Nat} (h : n < bound) :
    ((ofNat n).restyle style).natBelow? bound = some ⟨n, h⟩ := by
  simp [ofNat, natBelow?, isBare, natOf?_toDigits, h]

end NodeLabels.Yaml.Node
