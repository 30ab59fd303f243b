import Mathlib.Data.List.TakeWhile
import NodeLabels.Proofs.Url.Path
/-!
# Texts behind a plain address

What becomes of a text that stands behind `http://`, a plain authority and a slash: the end of it
and the breaks in it are dropped, and fragment and query are cut off (`parse_http`). What is left is
never longer, and it is the text itself if nothing of all this was there (`pathText_eq_self`,
`of_pathText_eq_self`). A text without a question mark, whatever it begins with, is read without a
query (`query_eq_none_of_parse`).
-/

namespace NodeLabels.Url

/-! ## Texts as they are cleaned and cut -/

def isEdge (c : Char) : Bool := c.toNat ≤ 0x20

def isBreak (c : Char) : Bool := c = '\t' || c = '\n' || c = '\r'

/-- A character that no step of reading takes for anything but itself. -/
def isPlain (c : Char) : Bool := ! isEdge c && ! endsAuthority true c

theorem clean_eq (cs : List Char) :
    clean cs = (((cs.dropWhile isEdge).reverse.dropWhile isEdge).reverse).filter (! isBreak ·) := by
  unfold clean isEdge isBreak
  simp [Bool.not_or, Bool.and_assoc]

theorem isBreak_eq_false {c : Char} (h : isEdge c = false) : isBreak c = false := by
  unfold isBreak
  rw [Bool.or_eq_false_iff, Bool.or_eq_false_iff]
  refine ⟨⟨?_, ?_⟩, ?_⟩ <;> rw [decide_eq_false_iff_not] <;> rintro rfl <;>
    exact absurd h (by decide)

/-- What reading keeps of a text that comes after a slash. -/
def kept (rest : List Char) : List Char :=
  (rest.reverse.dropWhile isEdge).reverse.filter (! isBreak ·)

theorem clean_append {front : List Char} (hfront : ∀ c ∈ front, isEdge c = false)
    (rest : List Char) : clean (front ++ '/' :: rest) = front ++ '/' :: kept rest := by
  have hstart : (front ++ '/' :: rest).dropWhile isEdge = front ++ '/' :: rest := by
    cases front with
    | nil => rfl
    | cons c front =>
      rw [List.cons_append, List.dropWhile_cons, hfront c List.mem_cons_self]
      rfl
  have hend : ((front ++ '/' :: rest).reverse.dropWhile isEdge).reverse =
      front ++ '/' :: (rest.reverse.dropWhile isEdge).reverse := by
    have hslash : (['/'] ++ front.reverse).dropWhile isEdge = ['/'] ++ front.reverse := rfl
    rw [List.reverse_append, List.reverse_cons, List.append_assoc, List.dropWhile_append, hslash]
    split
    · rename_i h
      rw [List.isEmpty_iff.1 h]
      simp
    · simp
  have hkeep : front.filter (! isBreak ·) = front := List.filter_eq_self.2 fun c hc => by
    rw [isBreak_eq_false (hfront c hc)]
    rfl
  rw [clean_eq, hstart, hend, List.filter_append, hkeep, List.filter_cons]
  rfl

theorem cutAt_append {mark : Char} {front : List Char} (h : mark ∉ front) (rest : List Char) :
    cutAt mark (front ++ rest) = (front ++ (cutAt mark rest).1, (cutAt mark rest).2) := by
  have hfront : (front ++ rest).takeWhile (· ≠ mark) = front ++ rest.takeWhile (· ≠ mark) :=
    List.takeWhile_append_of_pos fun c hc => decide_eq_true (ne_of_mem_of_not_mem hc h)
  unfold cutAt
  simp only [hfront, List.length_append, List.drop_length_add_append]

theorem cutAt_of_not_mem {mark : Char} {cs : List Char} (h : mark ∉ cs) :
    cutAt mark cs = (cs, none) := by
  have hnil := cutAt_append h []
  rw [List.append_nil] at hnil
  exact hnil.trans (congrArg (·, none) (List.append_nil cs))

/-! ## Texts without a question mark -/

theorem clean_subset (cs : List Char) : clean cs ⊆ cs := by
  intro c hc
  rw [clean_eq] at hc
  have hback := List.mem_reverse.1 (List.mem_filter.1 hc).1
  have hfront := List.mem_reverse.1 ((List.dropWhile_sublist _).subset hback)
  exact (List.dropWhile_sublist _).subset hfront

theorem scheme?_subset {cs scheme rest : List Char} (h : scheme? cs = some (scheme, rest)) :
    rest ⊆ cs := by
  unfold scheme? at h
  dsimp only at h
  split at h
  · rename_i hdrop
    split at h
    · cases h
      intro c hc
      exact List.mem_of_mem_drop (hdrop ▸ List.mem_cons_of_mem _ hc)
    · cases h
  · cases h

theorem query_eq_none_of_parse {input : String} {u : Url} (h : parse input = .ok u)
    (hmark : '?' ∉ input.toList) : u.query = none := by
  unfold parse at h
  simp only [bind, Except.bind, pure, Except.pure, throw, throwThe, MonadExceptOf.throw] at h
  split at h
  · rename_i scheme rest hscheme
    have hrest : '?' ∉ (cutAt '#' rest).1 := fun hm =>
      hmark (clean_subset _ (scheme?_subset hscheme ((List.takeWhile_sublist _).subset hm)))
    rw [cutAt_of_not_mem hrest] at h
    -- the scheme and what follows it decide on the path, but the query is cut off before
    split at h
    · split at h
      · cases h
      · cases h
        rfl
    · split at h
      · split at h
        · cases h
          rfl
        · split at h
          · cases h
          · cases h
            rfl
      · cases h
        rfl
      · cases h
        rfl
  · cases h

/-- The path in the text after the authority and its slash. -/
def pathText (rest : List Char) : List Char := (cutAt '?' (cutAt '#' (kept rest)).1).1

def queryText (rest : List Char) : Option (List Char) := (cutAt '?' (cutAt '#' (kept rest)).1).2

section

variable {authority : List Char} (hplain : ∀ c ∈ authority, isPlain c = true)

include hplain

theorem not_mem_of_plain {c : Char} (hc : isPlain c = false) : c ∉ authority := fun hm =>
  Bool.false_ne_true (hc.symm.trans (hplain c hm))

theorem cutAt_location {mark : Char} (hmark : isPlain mark = false) (hslash : mark ≠ '/')
    (cs : List Char) : cutAt mark ("//".toList ++ (authority ++ '/' :: cs)) =
      ("//".toList ++ (authority ++ '/' :: (cutAt mark cs).1), (cutAt mark cs).2) := by
  have hfront : mark ∉ "//".toList ++ (authority ++ ['/']) := by
    simp [hslash, not_mem_of_plain hplain hmark]
  have h := cutAt_append hfront cs
  simpa only [List.append_assoc, List.singleton_append] using h

theorem dropWhile_location (hne : authority ≠ []) (cs : List Char) :
    ("//".toList ++ (authority ++ '/' :: cs)).dropWhile (isSlash true) =
      authority ++ '/' :: cs := by
  cases authority with
  | nil => exact absurd rfl hne
  | cons c front =>
    have hc := hplain c List.mem_cons_self
    have hslash : isSlash true c = false := by simp_all [isPlain, endsAuthority]
    change (c :: (front ++ '/' :: cs)).dropWhile (isSlash true) = _
    rw [List.dropWhile_cons, hslash]
    rfl

theorem takeWhile_authority (cs : List Char) :
    (authority ++ '/' :: cs).takeWhile (! endsAuthority true ·) = authority := by
  rw [List.takeWhile_append_of_pos fun c hc => (Bool.and_eq_true_iff.1 (hplain c hc)).2]
  exact List.append_nil authority

/-- Reading a text with a plain scheme and authority. -/
theorem parse_http {a : Authority} (ha : authority? "http".toList authority = .ok a)
    (rest : List Char) :
    ∃ fragment, parse (String.ofList ("http://".toList ++ (authority ++ '/' :: rest))) = .ok
      { scheme := "http".toList, authority := some a
        path := .segments (segments true (pathText rest))
        query := (queryText rest).map (encodeSet (inQuerySet true)), fragment } := by
  have hne : authority ≠ [] := by
    rintro rfl
    exact nomatch ha
  have hedge : ∀ c ∈ "http://".toList ++ authority, isEdge c = false := by
    refine List.forall_mem_append.2 ⟨by simp [isEdge], fun c hc => ?_⟩
    simpa using (Bool.and_eq_true_iff.1 (hplain c hc)).1
  have hclean : clean ("http://".toList ++ (authority ++ '/' :: rest)) =
      "http:".toList ++ ("//".toList ++ (authority ++ '/' :: kept rest)) := by
    rw [← List.append_assoc, clean_append hedge]
    rfl
  have hscheme : ∀ cs, scheme? ("http:".toList ++ cs) = some ("http".toList, cs) := fun cs => rfl
  have hhash := cutAt_location hplain (show isPlain '#' = false by decide) (by decide)
  have hquestion := cutAt_location hplain (show isPlain '?' = false by decide) (by decide)
  unfold parse
  rw [String.toList_ofList, hclean, hscheme]
  simp only [bind, Except.bind, pure, Except.pure, hhash, hquestion]
  rw [if_pos (by decide)]
  simp only [dropWhile_location hplain hne, takeWhile_authority hplain, ha, List.drop_left,
    List.tail_cons]
  exact ⟨_, rfl⟩

end

/-! ## Texts that are kept as they are -/

/-- The marks that end a segment, and the breaks that are dropped from it. -/
def isMark (c : Char) : Bool := endsAuthority true c || isBreak c

/-- The text does not end in what is dropped from the ends. -/
def EndsVisibly (cs : List Char) : Prop := ∀ c ∈ cs.getLast?, isEdge c = false

instance (cs : List Char) : Decidable (EndsVisibly cs) :=
  match h : cs.getLast? with
  | none => .isTrue (by simp [EndsVisibly, h])
  | some c => decidable_of_iff (isEdge c = false) (by simp [EndsVisibly, h])

theorem endsVisibly_append_cons (front cs : List Char) :
    EndsVisibly (front ++ '/' :: cs) ↔ EndsVisibly cs := by
  have hslash : isEdge '/' = false := by decide
  unfold EndsVisibly
  rw [List.getLast?_append, List.getLast?_cons]
  cases cs.getLast? <;> simp [hslash]

theorem kept_sublist (rest : List Char) : (kept rest).Sublist rest := by
  have hback := (rest.reverse.dropWhile_sublist isEdge).reverse
  rw [List.reverse_reverse] at hback
  exact List.filter_sublist.trans hback

theorem kept_eq_self_iff {rest : List Char} :
    kept rest = rest ↔ EndsVisibly rest ∧ ∀ c ∈ rest, isBreak c = false := by
  have hend : (rest.reverse.dropWhile isEdge).reverse = rest ↔ EndsVisibly rest := by
    rw [List.reverse_eq_iff, List.dropWhile_eq_self_iff, EndsVisibly, ← List.head?_reverse]
    cases rest.reverse <;> simp
  have hsub := (rest.reverse.dropWhile_sublist isEdge).reverse
  rw [List.reverse_reverse] at hsub
  have hbreaks : ∀ cs : List Char, cs.filter (! isBreak ·) = cs ↔ ∀ c ∈ cs, isBreak c = false := by
    simp [List.filter_eq_self]
  constructor
  · intro h
    have hfilter : (kept rest).Sublist (rest.reverse.dropWhile isEdge).reverse :=
      List.filter_sublist
    rw [h] at hfilter
    have hrest : (rest.reverse.dropWhile isEdge).reverse = rest :=
      hsub.eq_of_length_le hfilter.length_le
    rw [kept, hrest, hbreaks] at h
    exact ⟨hend.1 hrest, h⟩
  · rintro ⟨hvisible, hbreak⟩
    rw [kept, hend.2 hvisible, (hbreaks rest).2 hbreak]

theorem cutAt_fst_eq_self {mark : Char} {cs : List Char} (h : (cutAt mark cs).1 = cs) :
    mark ∉ cs := h ▸ not_mem_cutAt mark cs

theorem pathText_sublist (rest : List Char) : (pathText rest).Sublist rest :=
  (List.takeWhile_sublist _).trans ((List.takeWhile_sublist _).trans (kept_sublist rest))

theorem pathText_eq_self {rest : List Char} (hend : EndsVisibly rest)
    (hmarks : ∀ c ∈ rest, c ≠ '/' → isMark c = false) :
    pathText rest = rest ∧ queryText rest = none := by
  have hnot : ∀ mark, mark ≠ '/' → isMark mark = true → mark ∉ rest := fun mark hne hmark hm =>
    Bool.false_ne_true ((hmarks mark hm hne).symm.trans hmark)
  have hbreak : ∀ c ∈ rest, isBreak c = false := fun c hc => by
    by_cases hslash : c = '/'
    · rw [hslash]
      decide
    · exact (Bool.or_eq_false_iff.1 (hmarks c hc hslash)).2
  rw [pathText, queryText, kept_eq_self_iff.2 ⟨hend, hbreak⟩,
    cutAt_of_not_mem (hnot '#' (by decide) (by decide)),
    cutAt_of_not_mem (hnot '?' (by decide) (by decide))]
  exact ⟨rfl, rfl⟩

/-- What is kept as it is ends visibly, and of the marks it holds slashes and backslashes alone. -/
theorem of_pathText_eq_self {rest : List Char} (h : pathText rest = rest) :
    EndsVisibly rest ∧ ∀ c ∈ rest, c ≠ '/' → c ≠ '\\' → isMark c = false := by
  have hquery : (pathText rest).Sublist (cutAt '#' (kept rest)).1 := List.takeWhile_sublist _
  have hfragment : (cutAt '#' (kept rest)).1.Sublist (kept rest) := List.takeWhile_sublist _
  rw [h] at hquery
  have hkept : kept rest = rest :=
    (kept_sublist rest).eq_of_length_le (hquery.trans hfragment).length_le
  rw [hkept] at hquery hfragment
  have hcut : (cutAt '#' rest).1 = rest := hfragment.eq_of_length_le hquery.length_le
  have hquestion : (cutAt '?' rest).1 = rest := by
    rw [pathText, hkept, hcut] at h
    exact h
  obtain ⟨hend, hbreak⟩ := kept_eq_self_iff.1 hkept
  refine ⟨hend, fun c hc hslash hback => ?_⟩
  have hc1 : c ≠ '#' := ne_of_mem_of_not_mem hc (cutAt_fst_eq_self hcut)
  have hc2 : c ≠ '?' := ne_of_mem_of_not_mem hc (cutAt_fst_eq_self hquestion)
  simp [isMark, endsAuthority, isSlash, hslash, hback, hc1, hc2, hbreak c hc]

end NodeLabels.Url
