import NodeLabels.Http
import NodeLabels.Proofs.Url.Form
import NodeLabels.Url
/-!
# Paths without a question mark

A path that was read from a text holds no question mark, so in what is sent for a URL the first one
begins the query, and the server sees the very path and query that the URL has (`path_of_target`,
`query_of_target`).
-/

namespace NodeLabels.Url

/-- What a character of an encoded part can be. -/
theorem mem_encodeSet {set : Char → Bool} {cs : List Char} {c : Char} (h : c ∈ encodeSet set cs) :
    Form.isWritten c = true ∨ set c = false ∧ c ∈ cs := by
  obtain ⟨d, hd, hc⟩ := List.mem_flatMap.1 h
  split at hc
  · obtain ⟨b, -, hb⟩ := List.mem_flatMap.1 hc
    exact Or.inl (Form.isWritten_of_mem_encodeByte hb)
  · rename_i hset
    rw [List.mem_singleton.1 hc]
    exact Or.inr ⟨Bool.eq_false_iff.2 hset, hd⟩

theorem mem_resolve {done parts : List (List Char)} {part : List Char}
    (h : part ∈ resolve done parts) : part = [] ∨ part ∈ done ∨ part ∈ parts := by
  induction parts generalizing done with
  | nil => exact Or.inr (Or.inl (List.mem_reverse.1 h))
  | cons d ds ih =>
    have htail : part ∈ done.tail → part ∈ done := List.mem_of_mem_tail
    rw [resolve] at h
    grind

/-- What the path of a URL that was read can be. -/
inductive ReadPath : Path → Prop
  | empty : ReadPath (.segments [])
  | root : ReadPath (.segments [[]])
  | segments (special : Bool) (cs : List Char) : ReadPath (.segments (segments special cs))
  | solid {text : List Char} (h : '?' ∉ text) : ReadPath (.solid (encodeSet isControl text))

theorem not_mem_cutAt (mark : Char) (cs : List Char) : mark ∉ (cutAt mark cs).1 := by
  intro h
  have hall : (cs.takeWhile (· ≠ mark)).all (· ≠ mark) = true := List.all_takeWhile
  have hne := List.all_eq_true.1 hall mark h
  simp at hne

theorem readPath_after (special : Bool) (rest : List Char) :
    ReadPath (.segments (match rest with
      | [] => if special then [[]] else []
      | _ :: path => Url.segments special path)) := by
  cases rest with
  | nil =>
    cases special with
    | true => exact .root
    | false => exact .empty
  | cons c path => exact .segments special path

theorem readPath_of_parse {input : String} {u : Url} (h : parse input = .ok u) :
    ReadPath u.path := by
  unfold parse at h
  simp only [bind, Except.bind, pure, Except.pure, throw, throwThe, MonadExceptOf.throw] at h
  split at h
  · rename_i scheme rest _
    have hmark := not_mem_cutAt '?' (cutAt '#' rest).1
    split at h
    · split at h
      · cases h
      · cases h
        exact .segments true _
    · split at h
      · split at h
        · cases h
          exact readPath_after _ _
        · split at h
          · cases h
          · cases h
            exact readPath_after _ _
      · cases h
        exact .segments _ _
      · cases h
        exact .solid hmark
  · cases h

theorem ReadPath.not_mem {p : Path} (h : ReadPath p) : '?' ∉ p.chars := by
  cases h with
  | empty => simp [Path.chars]
  | root => simp [Path.chars]
  | solid h =>
    intro hm
    rcases mem_encodeSet hm with hw | ⟨-, ht⟩
    · exact absurd hw (by decide)
    · exact h ht
  | segments special cs =>
    intro hm
    obtain ⟨part, hpart, hc⟩ := List.mem_flatMap.1 hm
    rcases List.mem_cons.1 hc with hc | hc
    · exact absurd hc (by decide)
    rcases mem_resolve hpart with rfl | hp | hp
    · exact List.not_mem_nil hc
    · exact List.not_mem_nil hp
    · obtain ⟨raw, -, rfl⟩ := List.mem_map.1 hp
      rcases mem_encodeSet hc with hw | ⟨hset, -⟩
      · exact absurd hw (by decide)
      · exact absurd hset (by decide)

/-- A request for a URL carries the query of the URL. -/
theorem query_of_target {input : String} {u : Url} (h : parse input = .ok u)
    (pairs : List (String × String)) {r : Http.Request}
    (hr : r.target = (u.addQuery pairs).target) :
    r.query = Form.append (u.query.getD []) pairs := by
  have hm := (readPath_of_parse h).not_mem
  rw [Http.Request.query, hr, target, String.toList_ofList]
  exact congrArg List.tail (Form.dropWhile_ne_append hm _)

theorem path_of_target {input : String} {u : Url} (h : parse input = .ok u) {r : Http.Request}
    (hr : r.target = u.target) : r.path = u.path.chars := by
  have hm := (readPath_of_parse h).not_mem
  have htarget : r.target.toList = u.path.chars ++ optionalPart '?' u.query := by
    rw [hr, target, String.toList_ofList]
  rw [Http.Request.path, htarget,
    List.takeWhile_append_of_pos fun c hc => decide_eq_true (ne_of_mem_of_not_mem hc hm)]
  cases u.query <;> simp [optionalPart]

theorem not_mem_target_iff {input : String} {u : Url} (h : parse input = .ok u) {r : Http.Request}
    (hr : r.target = u.target) : '?' ∉ r.target.toList ↔ u.query = none := by
  have hm := (readPath_of_parse h).not_mem
  rw [hr, target, String.toList_ofList, List.mem_append]
  cases u.query <;> simp [optionalPart, hm]

end NodeLabels.Url
