import Mathlib.Algebra.GroupWithZero.Nat
import NodeLabels.Proofs.Text.Split
import NodeLabels.Proofs.Url.Clean
import NodeLabels.Proofs.Url.Escape
/-!
# Segments that are read back

Parts that were written one after the other, each behind a slash, and read as the path of a URL.
They come out as they went in exactly if each is a segment as it stands (`segments_iff`). One
direction goes through the steps of reading. The other counts characters: dropping, cutting,
resolving dots and resolving escapes all make a path shorter, so where as much comes out as went in
none of them happened.
-/

namespace NodeLabels.Url

/-! ## Paths as they are written -/

@[simp] theorem chars_nil : (Path.segments []).chars = [] := rfl

@[simp] theorem chars_cons (p : List Char) (ps : List (List Char)) :
    (Path.segments (p :: ps)).chars = '/' :: (p ++ (Path.segments ps).chars) := rfl

theorem splitAt_chars {parts : List (List Char)} (h : ∀ p ∈ parts, '/' ∉ p) :
    Text.splitAt '/' (Path.segments parts).chars = [] :: parts := by
  induction parts with
  | nil => rfl
  | cons p ps ih =>
    obtain ⟨hp, hps⟩ := List.forall_mem_cons.1 h
    rw [chars_cons, Text.splitAt, if_pos rfl]
    cases ps with
    | nil => rw [chars_nil, List.append_nil, Text.splitAt_of_not_mem hp]
    | cons q qs =>
      have hq := ih hps
      rw [chars_cons, Text.splitAt, if_pos rfl] at hq
      rw [chars_cons, Text.splitAt_append_cons hp, (List.cons.inj hq).2]

theorem chars_splitAt (cs : List Char) :
    (Path.segments (Text.splitAt '/' cs)).chars = '/' :: cs := by
  induction cs with
  | nil => rfl
  | cons c cs ih =>
    rw [Text.splitAt]
    split
    · rename_i hc
      rw [chars_cons, ih, List.nil_append, hc]
    · cases hs : Text.splitAt '/' cs with
      | nil => exact absurd hs (Text.splitAt_ne_nil '/' cs)
      | cons first pieces =>
        rw [hs, chars_cons] at ih
        rw [chars_cons, List.cons_append, (List.cons.inj ih).2]

theorem length_chars (parts : List (List Char)) :
    (Path.segments parts).chars.length = (parts.map fun p => p.length + 1).sum := by
  induction parts with
  | nil => rfl
  | cons p ps ih =>
    rw [chars_cons, List.length_cons, List.length_append, ih, List.map_cons, List.sum_cons]
    omega

theorem endsVisibly_chars (parts : List (List Char)) (p : List Char) :
    EndsVisibly (Path.segments (parts ++ [p])).chars ↔ EndsVisibly p := by
  have hchars : (Path.segments (parts ++ [p])).chars = (Path.segments parts).chars ++ '/' :: p := by
    simp [Path.chars]
  rw [hchars, endsVisibly_append_cons]

/-! ## Dot segments -/

/-- A segment that is resolved, and does not stay as it is. -/
def isDots (segment : List Char) : Bool := isSingleDot segment || isDoubleDot segment

theorem decode_of_isDots {segment : List Char} (h : isDots segment = true) :
    decode segment = ['.'] ∨ decode segment = ['.', '.'] :=
  ((Bool.or_eq_true_iff).1 h).imp decode_of_isSingleDot decode_of_isDoubleDot

theorem resolve_of_not_isDots {parts : List (List Char)} (h : ∀ p ∈ parts, isDots p = false)
    (done : List (List Char)) : resolve done parts = done.reverse ++ parts := by
  induction parts generalizing done with
  | nil => simp [resolve]
  | cons p ps ih =>
    obtain ⟨hp, hps⟩ := List.forall_mem_cons.1 h
    obtain ⟨hsingle, hdouble⟩ := Bool.or_eq_false_iff.1 hp
    simp [resolve, hsingle, hdouble, ih hps]

/-- The length of a path with its escapes resolved, each part with its slash. -/
def weight (parts : List (List Char)) : Nat := (parts.map fun p => (decode p).length + 1).sum

@[simp] theorem weight_nil : weight [] = 0 := rfl

@[simp] theorem weight_cons (p : List Char) (ps : List (List Char)) :
    weight (p :: ps) = (decode p).length + 1 + weight ps := rfl

@[simp] theorem weight_reverse (parts : List (List Char)) :
    weight parts.reverse = weight parts := by
  simp [weight]

theorem weight_eq (parts : List (List Char)) :
    weight parts = ((parts.map decode).map fun p => p.length + 1).sum := by
  rw [weight, List.map_map]
  rfl

theorem weight_encodeSet (parts : List (List Char)) :
    weight (parts.map (encodeSet inPathSet)) = weight parts := by
  simp [weight, Function.comp_def, decode_encodeSet leavesEscapes_inPathSet]

/-- Resolving escapes makes the path shorter. -/
theorem weight_add_le (parts : List (List Char)) :
    weight parts + (if parts.any hasEscape then 1 else 0) ≤
      (parts.map fun p => p.length + 1).sum := by
  induction parts with
  | nil => exact Nat.le_refl 0
  | cons p ps ih =>
    have hp := length_decode_add p
    rw [weight_cons, List.any_cons, List.map_cons, List.sum_cons]
    cases he : hasEscape p with
    | false =>
      simp only [he, Bool.false_or, Bool.false_eq_true, if_false] at hp ⊢
      omega
    | true =>
      simp only [he, Bool.true_or, if_true] at hp ⊢
      omega

theorem weight_tail_le (parts : List (List Char)) : weight parts.tail ≤ weight parts := by
  cases parts <;> simp

/-- Resolving a dot segment makes the path shorter. -/
theorem weight_resolve (done parts : List (List Char)) :
    weight (resolve done parts) + (if parts.any isDots then 1 else 0) ≤
      weight done + weight parts := by
  induction parts generalizing done with
  | nil => simp [resolve]
  | cons p ps ih =>
    have hempty : (decode []).length = 0 := congrArg _ (decode_of_not_hasEscape rfl)
    have hdone : weight (if ps.isEmpty then [] :: done else done) ≤ weight done + 1 := by
      split
      · rw [weight_cons, hempty]
        omega
      · omega
    have htail : weight (if ps.isEmpty then [] :: done.tail else done.tail) ≤ weight done + 1 := by
      have htail := weight_tail_le done
      split
      · rw [weight_cons, hempty]
        omega
      · omega
    rw [resolve, List.any_cons, weight_cons, isDots]
    cases hdouble : isDoubleDot p with
    | true =>
      have hp := congrArg List.length (decode_of_isDoubleDot hdouble)
      have h := ih (if ps.isEmpty then [] :: done.tail else done.tail)
      simp only [Bool.or_true, Bool.true_or, if_true, List.length_cons, List.length_nil] at hp ⊢
      omega
    | false =>
      cases hsingle : isSingleDot p with
      | true =>
        have hp := congrArg List.length (decode_of_isSingleDot hsingle)
        have h := ih (if ps.isEmpty then [] :: done else done)
        simp only [Bool.or_false, Bool.true_or, if_true, List.length_cons, List.length_nil,
          Bool.false_eq_true, if_false] at hp ⊢
        omega
      | false =>
        have h := ih (p :: done)
        simp only [Bool.or_false, Bool.false_or, Bool.false_eq_true, if_false, weight_cons] at h ⊢
        omega

/-! ## Segments that come out as they went in -/

/-- A text that is one segment of a path as it stands. -/
structure IsSegment (cs : List Char) : Prop where
  unmarked : ∀ c ∈ cs, isMark c = false
  unescaped : hasEscape cs = false
  undotted : cs ≠ ['.'] ∧ cs ≠ ['.', '.']

instance (cs : List Char) : Decidable (IsSegment cs) :=
  decidable_of_iff (cs.any isMark = false ∧ hasEscape cs = false ∧ cs ≠ ['.'] ∧ cs ≠ ['.', '.'])
    ⟨fun h => ⟨by simpa using h.1, h.2.1, h.2.2⟩,
      fun h => ⟨by simpa using h.unmarked, h.unescaped, h.undotted⟩⟩

theorem IsSegment.decode_encodeSet {p : List Char} (h : IsSegment p) :
    decode (encodeSet inPathSet p) = p := by
  rw [Url.decode_encodeSet leavesEscapes_inPathSet, decode_of_not_hasEscape h.unescaped]

theorem IsSegment.not_isDots {p : List Char} (h : IsSegment p) :
    isDots (encodeSet inPathSet p) = false := by
  cases hd : isDots (encodeSet inPathSet p) with
  | false => rfl
  | true =>
    have hdecode := decode_of_isDots hd
    rw [h.decode_encodeSet] at hdecode
    exact (hdecode.elim h.undotted.1 h.undotted.2).elim

theorem mem_chars {parts : List (List Char)} {c : Char} (h : c ∈ (Path.segments parts).chars) :
    c = '/' ∨ ∃ p ∈ parts, c ∈ p := by
  obtain ⟨p, hp, hc⟩ := List.mem_flatMap.1 h
  exact (List.mem_cons.1 hc).imp_right fun hc => ⟨p, hp, hc⟩

theorem mem_chars_of_mem {parts : List (List Char)} {p : List Char} (hp : p ∈ parts) {c : Char}
    (hc : c ∈ p) : c ∈ (Path.segments parts).chars :=
  List.mem_flatMap.2 ⟨p, hp, List.mem_cons_of_mem _ hc⟩

/-- With slashes for backslashes. -/
def slashes (cs : List Char) : List Char := cs.map fun c => if c = '\\' then '/' else c

theorem segments_true (cs : List Char) : segments true cs =
    resolve [] ((Text.splitAt '/' (slashes cs)).map (encodeSet inPathSet)) := rfl

theorem slashes_eq_self {cs : List Char} (h : '\\' ∉ cs) : slashes cs = cs :=
  (List.map_congr_left fun _ hc => if_neg (ne_of_mem_of_not_mem hc h)).trans (List.map_id cs)

theorem not_mem_slashes (cs : List Char) : '\\' ∉ slashes cs := by
  intro h
  obtain ⟨c, -, hc⟩ := List.mem_map.1 h
  split at hc
  · exact absurd hc (by decide)
  · contradiction

theorem not_slash_of_mem_segments {special : Bool} {cs p : List Char}
    (h : p ∈ segments special cs) : '/' ∉ p := by
  intro hc
  rcases mem_resolve h with rfl | hp | hp
  · exact List.not_mem_nil hc
  · exact List.not_mem_nil hp
  · obtain ⟨raw, hraw, rfl⟩ := List.mem_map.1 hp
    rcases mem_encodeSet hc with hw | ⟨-, hm⟩
    · exact absurd hw (by decide)
    · exact Text.not_mem_of_mem_splitAt hraw hm

/-- The pieces of the path between its slashes, with their escapes resolved. -/
def pieces (path : List Char) : List (List Char) := (Text.splitAt '/' path).map decode

theorem pieces_segments (special : Bool) (cs : List Char) :
    pieces (Path.segments (segments special cs)).chars =
      [] :: (segments special cs).map decode := by
  have hempty : decode [] = [] := decode_of_not_hasEscape rfl
  rw [pieces, splitAt_chars fun p hp => not_slash_of_mem_segments hp, List.map_cons, hempty]

section

variable {parts : List (List Char)} {rest : List Char}
  (hrest : '/' :: rest = (Path.segments parts).chars)

include hrest

theorem segments_of_isSegment (h : ∀ p ∈ parts, IsSegment p) :
    (segments true rest).map decode = parts := by
  have hnot : ∀ mark, isMark mark = true → ∀ p ∈ parts, mark ∉ p := fun mark hmark p hp hm =>
    Bool.false_ne_true (((h p hp).unmarked mark hm).symm.trans hmark)
  have hback : '\\' ∉ rest := by
    intro hm
    rcases mem_chars (hrest ▸ List.mem_cons_of_mem _ hm) with hslash | ⟨p, hp, hc⟩
    · exact absurd hslash (by decide)
    · exact hnot _ (by decide) p hp hc
  have hsplit : Text.splitAt '/' rest = parts := by
    have hchars := splitAt_chars (hnot '/' (by decide))
    rw [← hrest, Text.splitAt, if_pos rfl] at hchars
    exact (List.cons.inj hchars).2
  rw [segments_true, slashes_eq_self hback, hsplit, resolve_of_not_isDots, List.reverse_nil,
    List.nil_append, List.map_map]
  · exact (List.map_congr_left fun p hp => (h p hp).decode_encodeSet).trans (List.map_id parts)
  · intro p hp
    obtain ⟨raw, hraw, rfl⟩ := List.mem_map.1 hp
    exact (h raw hraw).not_isDots

section

variable (h : (segments true (pathText rest)).map decode = parts)

include h

/-- Nothing was dropped and nothing resolved, for each of these makes the path shorter. -/
theorem unchanged_of_segments : pathText rest = rest ∧
    (∀ p ∈ Text.splitAt '/' (slashes rest), hasEscape p = false) ∧
      ∀ p ∈ Text.splitAt '/' (slashes rest), isDots (encodeSet inPathSet p) = false := by
  have hsegments : weight (segments true (pathText rest)) = rest.length + 1 := by
    rw [weight_eq, h, ← length_chars, ← hrest, List.length_cons]
  have hraws : ((Text.splitAt '/' (slashes (pathText rest))).map fun p => p.length + 1).sum =
      (pathText rest).length + 1 := by
    rw [← length_chars, chars_splitAt, List.length_cons, slashes, List.length_map]
  have hlength := (pathText_sublist rest).length_le
  have hescapes := weight_add_le (Text.splitAt '/' (slashes (pathText rest)))
  have hresolve := weight_resolve []
    ((Text.splitAt '/' (slashes (pathText rest))).map (encodeSet inPathSet))
  rw [weight_encodeSet, ← segments_true, weight_nil, Nat.zero_add] at hresolve
  -- As much came out as went in, so each of the three bounds is met with equality.
  have hpath : pathText rest = rest := (pathText_sublist rest).eq_of_length_le (by omega)
  rw [hpath] at hsegments hraws hescapes hresolve
  refine ⟨hpath, ?_, ?_⟩
  · have hany : (Text.splitAt '/' (slashes rest)).any hasEscape = false := by
      refine Bool.eq_false_iff.2 fun hany => ?_
      rw [hany, if_pos rfl] at hescapes
      omega
    simpa using hany
  · have hany :
        ((Text.splitAt '/' (slashes rest)).map (encodeSet inPathSet)).any isDots = false := by
      refine Bool.eq_false_iff.2 fun hany => ?_
      rw [hany, if_pos rfl] at hresolve
      omega
    simpa using hany

theorem splitAt_of_segments : Text.splitAt '/' (slashes rest) = parts := by
  obtain ⟨hpath, hescape, hdots⟩ := unchanged_of_segments hrest h
  rw [hpath, segments_true, resolve_of_not_isDots (List.forall_mem_map.2 hdots), List.reverse_nil,
    List.nil_append, List.map_map] at h
  refine ((List.map_congr_left fun p hp => ?_).trans (List.map_id _)).symm.trans h
  rw [Function.comp_apply, decode_encodeSet leavesEscapes_inPathSet,
    decode_of_not_hasEscape (hescape p hp), id]

theorem isSegment_of_segments : EndsVisibly rest ∧ ∀ p ∈ parts, IsSegment p := by
  obtain ⟨hpath, hescape, hdots⟩ := unchanged_of_segments hrest h
  have hparts := splitAt_of_segments hrest h
  have hslashes : slashes rest = rest := by
    have hchars := chars_splitAt (slashes rest)
    rw [hparts, ← hrest] at hchars
    exact (List.cons.inj hchars).2.symm
  obtain ⟨hend, hmarks⟩ := of_pathText_eq_self hpath
  refine ⟨hend, fun p hp => ?_⟩
  have hsplit : p ∈ Text.splitAt '/' (slashes rest) := hparts ▸ hp
  refine ⟨fun c hc => ?_, hescape p hsplit, ?_, ?_⟩
  · have hslash : c ≠ '/' := ne_of_mem_of_not_mem hc (Text.not_mem_of_mem_splitAt hsplit)
    have hrestc : c ∈ rest :=
      (List.mem_cons.1 (hrest ▸ mem_chars_of_mem hp hc)).resolve_left hslash
    exact hmarks c hrestc hslash (ne_of_mem_of_not_mem hrestc (hslashes ▸ not_mem_slashes rest))
  · rintro rfl
    exact absurd (hdots _ hsplit) (by decide)
  · rintro rfl
    exact absurd (hdots _ hsplit) (by decide)

end

/-- Parts come out of a path as they went in exactly if each of them is a segment as it stands and
the last ends visibly. -/
theorem segments_iff : (segments true (pathText rest)).map decode = parts ∧ queryText rest = none ↔
    EndsVisibly rest ∧ ∀ p ∈ parts, IsSegment p := by
  constructor
  · exact fun h => isSegment_of_segments hrest h.1
  · rintro ⟨hend, hparts⟩
    have hmarks : ∀ c ∈ rest, c ≠ '/' → isMark c = false := fun c hc hslash => by
      obtain ⟨p, hp, hcp⟩ :=
        (mem_chars (hrest ▸ List.mem_cons_of_mem _ hc)).resolve_left hslash
      exact (hparts p hp).unmarked c hcp
    obtain ⟨hpath, hquery⟩ := pathText_eq_self hend hmarks
    exact ⟨hpath.symm ▸ segments_of_isSegment hrest hparts, hquery⟩

end

end NodeLabels.Url
